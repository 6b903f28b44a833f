import Tearline.ExitStatus
import Tearline.Simulated

/-!
# The simulated store as a live one

Without a live store the differential axis computes what a store would serve.  A live run gives
the same report exactly when its store answers every question as the simulation does, and the
simulation is such a store itself, so whatever is proved of live runs holds of offline ones.

Main results:

- Theorem {lit}`answerTo_eq_iff`: when a question has the same result live and offline.
- Theorem {lit}`runProbes_simulatedStore`: the simulation as a store.
- Theorem {lit}`verify_live_eq_iff`: when a live report is the offline one.
-/

namespace Tearline

/-! ## One question -/

/-- The answer to a probe under a principal is what the simulation computes: of the held chunks
that the probe lists it has those that the simulation serves, and any other id is that of a chunk
which the sources grant. -/
structure AnswersAsSimulated (scenario : Scenario) (variant : Variant) (enforce : Enforcement)
    (probe : Probe) (principal : Principal) (answered : List String) : Prop where
  listed : ∀ cid ∈ probe.matchIds, ∀ chunk, variant.chunks.get? cid = some chunk →
    (cid ∈ answered ↔
      cid ∈ candidates probe variant.annLimit ∧ enforce chunk.entitlement principal = true)
  unlisted : ∀ cid ∈ answered, cid ∉ probe.matchIds →
    ∃ chunk, variant.chunks.get? cid = some chunk ∧ SourcesGrant scenario chunk principal

section Question

variable {scenario : Scenario} {variant : Variant} {enforce : Enforcement} {probe : Probe}
  {principal : Principal} {answered : List String}

/-- The loop over the listed ids reads such an answer as it reads the candidates. -/
theorem listedStep_of_answersAsSimulated
    (h : AnswersAsSimulated scenario variant enforce probe principal answered) (tally : Tally)
    {cid : String} (hcid : cid ∈ probe.matchIds) :
    listedStep scenario variant enforce (candidates probe variant.annLimit) principal
        (some answered) tally cid =
      listedStep scenario variant enforce (candidates probe variant.annLimit) principal none
        tally cid := by
  unfold listedStep
  cases hchunk : variant.chunks.get? cid with
  | none => rfl
  | some chunk =>
      have hreceives : receives enforce (candidates probe variant.annLimit) principal
          (some answered) cid chunk =
            receives enforce (candidates probe variant.annLimit) principal none cid chunk := by
        rw [receives, receives, Bool.eq_iff_iff, decide_eq_true_eq, Bool.and_eq_true,
          decide_eq_true_eq]
        exact h.listed cid hcid chunk hchunk
      dsimp only
      rw [hreceives]

/-- The loop over such an answer gathers nothing. -/
theorem unlistedStep_of_answersAsSimulated
    (h : AnswersAsSimulated scenario variant enforce probe principal answered) (tally : Tally)
    {cid : String} (hcid : cid ∈ answered) :
    unlistedStep scenario variant probe principal tally cid = tally := by
  unfold unlistedStep
  split_ifs with hlisted
  · rfl
  · rcases h.unlisted cid hcid hlisted with ⟨chunk, hchunk, hsources, hgrants⟩
    have hall : entitledByAll scenario.rule
        ((locatedSources scenario chunk).map SourceDocument.entitlement) principal = true :=
      (entitledByAll_eq_true_iff _ _ _).mpr
        ⟨by simpa using hsources, by simpa using hgrants⟩
    simp [hchunk, hsources, hall]

/-- So both loops gather the same. -/
theorem tallyOf_of_answersAsSimulated
    (h : AnswersAsSimulated scenario variant enforce probe principal answered) :
    tallyOf scenario variant enforce probe principal (some answered) =
      tallyOf scenario variant enforce probe principal none := by
  have hlisted := List.foldl_ext _ _ ({} : Tally)
    fun tally _ hcid => listedStep_of_answersAsSimulated h tally hcid
  have hunlisted : ∀ tally, answered.foldl (unlistedStep scenario variant probe principal) tally =
      tally := by
    intro tally
    rw [List.foldl_ext _ (fun tally _ => tally) tally
      fun tally _ hcid => unlistedStep_of_answersAsSimulated h tally hcid]
    exact List.foldl_fixed' (fun _ => rfl) answered
  simp only [tallyOf, hlisted, hunlisted]

end Question

/-- A question has the same result live and offline exactly when the store answers it as the
simulation does. -/
theorem answerTo_eq_iff (scenario : Scenario) (variant : Variant) (enforce : Enforcement)
    (ask : Retrieve) (q : Question) :
    answerTo scenario variant enforce (some ask) q = answerTo scenario variant enforce none q ↔
      AnswersAsSimulated scenario variant enforce q.probe q.principal (q.answers variant ask) := by
  constructor
  · intro hsame
    have hreturned : ∀ cid, cid ∈ (answerTo scenario variant enforce (some ask) q).returned ↔
        cid ∈ (answerTo scenario variant enforce none q).returned := by simp [hsame]
    simp only [mem_returned_iff, comparison, Question.served, Question.live, Option.map_some,
      Option.map_none, Set.mem_ofPred_eq] at hreturned
    refine ⟨fun cid hcid chunk hchunk => ?_, fun cid hcid hunlisted => ?_⟩
    · have hheld : Held variant cid := ⟨chunk, hchunk⟩
      have hcid' := hreturned cid
      simp only [hcid, hheld, hchunk, Option.some.injEq, exists_eq_left', not_true, false_and,
        or_false, and_true] at hcid'
      exact hcid'
    · by_contra hdenied
      rw [← judge_eq_granted_iff] at hdenied
      have hserved := (hreturned cid).mp ⟨hcid, Or.inr ⟨hunlisted, hdenied⟩⟩
      exact hunlisted (candidates_subset q.probe variant.annLimit hserved.1.1)
  · intro hanswers
    change probeResult scenario variant enforce q.probe q.pid q.principal
      (some (q.answers variant ask)) = probeResult scenario variant enforce q.probe q.pid
        q.principal none
    unfold probeResult
    rw [tallyOf_of_answersAsSimulated hanswers]

/-! ## The simulation as a store -/

/-- The store that an offline run computes: it serves the candidates whose tags the enforcement
model admits the principal to. -/
def simulatedStore (variant : Variant) (enforce : Enforcement) : Retrieve :=
  fun _ probe principal annLimit =>
    (candidates probe annLimit).filter fun cid =>
      match variant.chunks.get? cid with
      | none => false
      | some chunk => enforce chunk.entitlement principal

/-- What the store serves of the chunks of the index. -/
theorem mem_simulatedStore_iff {variant : Variant} {enforce : Enforcement} {n : Nat}
    {probe : Probe} {principal : Principal} {annLimit : Option Int} {cid : String} {chunk : Chunk}
    (hchunk : variant.chunks.get? cid = some chunk) :
    cid ∈ simulatedStore variant enforce n probe principal annLimit ↔
      cid ∈ candidates probe annLimit ∧ enforce chunk.entitlement principal = true := by
  rw [simulatedStore, List.mem_filter, hchunk]

/-- It answers as the simulation does. -/
theorem simulatedStore_answersAsSimulated (scenario : Scenario) (variant : Variant)
    (enforce : Enforcement) (n : Nat) (probe : Probe) (principal : Principal) :
    AnswersAsSimulated scenario variant enforce probe principal
      (simulatedStore variant enforce n probe principal variant.annLimit) := by
  refine ⟨fun cid _ chunk hchunk => mem_simulatedStore_iff hchunk, fun cid hcid hunlisted => ?_⟩
  exact absurd (candidates_subset probe variant.annLimit (List.mem_of_mem_filter hcid)) hunlisted

/-- The differential axis without a store is the one against the simulated store, and both fail
alike. -/
theorem runProbes_simulatedStore {scenario : Scenario} {variant : Variant} {enforce : Enforcement}
    (henforce : enforcementFor scenario.rule variant.enforcement = .ok enforce) :
    runProbes scenario variant (some (simulatedStore variant enforce)) =
      runProbes scenario variant none := by
  have htally := fun n probe principal => tallyOf_of_answersAsSimulated
    (simulatedStore_answersAsSimulated scenario variant enforce n probe principal)
  have hask : askStep scenario variant enforce (some (simulatedStore variant enforce)) =
      askStep scenario variant enforce none := by
    funext probe results pid
    simp only [askStep, probeResult, Option.map_some, Option.map_none, htally]
  have hprobe : probeStep scenario variant enforce (some (simulatedStore variant enforce)) =
      probeStep scenario variant enforce none := by
    funext acc probe
    simp only [probeStep, hask]
  rw [runProbes, runProbes, henforce]
  exact congrArg (List.foldlM · ([], []) scenario.probes) hprobe

/-! ## Whole reports -/

/-- A live run completes with the report of the offline one exactly when the store answers every
question as the simulation does. -/
theorem verify_live_eq_iff {scenario : Scenario} {variant : Variant} {enforce : Enforcement}
    {site : String} {report : VerificationReport}
    (henforce : enforcementFor scenario.rule variant.enforcement = .ok enforce)
    (hverify : verify scenario variant none site = .ok report) (ask : Retrieve) :
    verify scenario variant (some ask) site = .ok report ↔
      ∀ q ∈ questions scenario,
        AnswersAsSimulated scenario variant enforce q.probe q.principal
          (q.answers variant ask) := by
  rcases (verify_eq_ok_iff _ _ _ _ _).mp hverify with ⟨hpropagation, hrun, hrest⟩
  rcases (runProbes_eq_ok_iff _ _ _ _ _).mp hrun with
    ⟨other, hother, hdeclared, hresults, hskipped⟩
  cases henforce.symm.trans hother
  have hsame : verify scenario variant (some ask) site = .ok report ↔
      runProbes scenario variant (some ask) = .ok (report.probes, report.probesSkipped) := by
    rw [verify_eq_ok_iff]
    exact ⟨fun hlive => hlive.2.1, fun hlive => ⟨hpropagation, hlive, hrest⟩⟩
  have hlive : runProbes scenario variant (some ask) = .ok (report.probes, report.probesSkipped) ↔
      (questions scenario).map (answerTo scenario variant enforce none) =
        (questions scenario).map (answerTo scenario variant enforce (some ask)) := by
    rw [runProbes_eq_ok_iff, ← hresults]
    constructor
    · intro hrun
      rcases hrun with ⟨again, hagain, -, hprobes, -⟩
      cases henforce.symm.trans hagain
      exact hprobes
    · intro hprobes
      exact ⟨enforce, henforce, hdeclared, hprobes, hskipped⟩
  rw [hsame, hlive, List.map_inj_left]
  exact forall₂_congr fun q _ => eq_comm.trans (answerTo_eq_iff scenario variant enforce ask q)

theorem verify_live_eq_iff_unstated :
    verify unstated unstatedIndex (some answersAll) "simulated" = .ok unstatedReport ↔
      ∀ q ∈ questions unstated,
        AnswersAsSimulated unstated unstatedIndex unstated.rule.admittedByNaiveFilter q.probe
          q.principal (q.answers unstatedIndex answersAll) :=
  verify_live_eq_iff (enforcementFor_naive unstated.rule)
    (by decide +kernel : verify unstated unstatedIndex none "simulated" = .ok unstatedReport)
    answersAll

end Tearline
