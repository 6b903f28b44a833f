import Tearline.Library.Audit
import Tearline.Verify.Probes

/-!
# Probe results as differential audits

The two loops behind a probe result build three collections by hand.  Here they
are compared with the differential audit of the same question: the source system
as the judge, the listed ids as the relevant ones, and what reached the principal
as what was served.

Main results:

- Theorem {lit}`mem_overRetrieved_iff` and {lit}`mem_underRetrieved_iff`: a result
  refines the audit of its question on both axes.
- Theorem {lit}`mem_undeterminedReturned_iff`: it does so for undetermined ids up to
  served ids that the probe lists and the index does not hold.
-/

namespace Tearline

open Audit

/-! ## The audit a question stands for -/

/-- The index holds a chunk under this id. -/
def Held (variant : Variant) (cid : String) : Prop :=
  ∃ chunk, variant.chunks.get? cid = some chunk

/-- There is a located source of the chunk and all of them grant the principal. -/
def SourcesGrant (scenario : Scenario) (chunk : Chunk) (principal : Principal) : Prop :=
  locatedSources scenario chunk ≠ [] ∧ ∀ source ∈ locatedSources scenario chunk,
    scenario.rule.entitled source.entitlement principal = true

/-- There is a located source of the chunk that denies the principal. -/
def SourceDenies (scenario : Scenario) (chunk : Chunk) (principal : Principal) : Prop :=
  ∃ source ∈ locatedSources scenario chunk,
    scenario.rule.entitled source.entitlement principal = false

/-- What the source system says about an id for a principal: nothing when the index
does not hold it or no source of it is located. -/
def judge (scenario : Scenario) (variant : Variant) (principal : Principal) (cid : String) :
    Judgement :=
  match variant.chunks.get? cid with
  | none => .undetermined
  | some chunk =>
      let sources := locatedSources scenario chunk
      if sources.isEmpty then .undetermined
      else if entitledByAll scenario.rule (sources.map SourceDocument.entitlement)
          principal then .granted
      else .denied

/-- The ids that reached the principal: what the live store answered, or the
candidates the enforcement model admits. -/
def Question.served (q : Question) (variant : Variant) (enforce : Enforcement) :
    Option (List String) → Set String
  | some answered => {cid | cid ∈ answered}
  | none =>
      {cid | cid ∈ candidates q.probe variant.annLimit ∧
        ∃ chunk, variant.chunks.get? cid = some chunk ∧
          enforce chunk.entitlement q.principal = true}

/-- The differential audit a question stands for. -/
def comparison (scenario : Scenario) (variant : Variant) (enforce : Enforcement)
    (retrieve : Option Retrieve) (q : Question) : Comparison String where
  judge := judge scenario variant q.principal
  relevant := {cid | cid ∈ q.probe.matchIds}
  served := q.served variant enforce (q.live variant retrieve)

/-- An id is denied exactly when a located source of its chunk denies the principal. -/
theorem judge_eq_denied_iff (scenario : Scenario) (variant : Variant) (principal : Principal)
    (cid : String) :
    judge scenario variant principal cid = .denied ↔
      ∃ chunk, variant.chunks.get? cid = some chunk ∧ SourceDenies scenario chunk principal := by
  unfold judge SourceDenies
  cases variant.chunks.get? cid with
  | none => simp
  | some chunk =>
      simp only [entitledByAll_map_eq_true_iff, List.isEmpty_iff, Option.some.injEq,
        exists_eq_left']
      split_ifs with hnone hall
      · simp [hnone]
      · simpa using hall.2
      · simpa [hnone] using hall

/-- An id is granted exactly when its chunk has a located source and all of them grant
the principal. -/
theorem judge_eq_granted_iff (scenario : Scenario) (variant : Variant) (principal : Principal)
    (cid : String) :
    judge scenario variant principal cid = .granted ↔
      ∃ chunk, variant.chunks.get? cid = some chunk ∧ SourcesGrant scenario chunk principal := by
  unfold judge SourcesGrant
  cases variant.chunks.get? cid with
  | none => simp
  | some chunk =>
      simp only [entitledByAll_map_eq_true_iff, List.isEmpty_iff, Option.some.injEq,
        exists_eq_left']
      split_ifs with hnone hall
      · simp [hnone]
      · simpa using hall
      · simpa using hall

/-- An id is undetermined exactly when the index holds no chunk under it with a
located source. -/
theorem judge_eq_undetermined_iff (scenario : Scenario) (variant : Variant)
    (principal : Principal) (cid : String) :
    judge scenario variant principal cid = .undetermined ↔
      ∀ chunk, variant.chunks.get? cid = some chunk → locatedSources scenario chunk = [] := by
  unfold judge
  cases variant.chunks.get? cid with
  | none => simp
  | some chunk =>
      simp only [List.isEmpty_iff, Option.some.injEq, forall_eq']
      split_ifs with hnone hall
      · simpa using hnone
      · simpa using hnone
      · simpa using hnone

/-- A judgement other than undetermined is about a chunk the index holds. -/
theorem held_of_judge_ne (scenario : Scenario) (variant : Variant) (principal : Principal)
    (cid : String) (h : judge scenario variant principal cid ≠ .undetermined) :
    Held variant cid := by
  unfold judge at h
  split at h
  · exact absurd rfl h
  · rename_i chunk hchunk
    exact ⟨chunk, hchunk⟩

theorem sliceTo_subset (xs : List String) (k : Int) : sliceTo xs k ⊆ xs := by
  unfold sliceTo
  split
  · exact List.take_subset _ _
  · exact List.take_subset _ _

/-- Every candidate is an id the probe lists. -/
theorem candidates_subset (probe : Probe) (annLimit : Option Int) :
    candidates probe annLimit ⊆ probe.matchIds := by
  unfold candidates
  split
  · exact List.Subset.refl _
  · split
    · exact sliceTo_subset _ _
    · exact List.Subset.refl _

section Loops

variable (scenario : Scenario) (variant : Variant) (enforce : Enforcement)
  (probe : Probe) (principal : Principal)

/-! ### What one turn of each loop adds -/

private theorem mem_truth_listedStep (candidateIds : List String) (live : Option (List String))
    (cid : String) (tally : Tally) (x : String) :
    cid ∈ (listedStep scenario variant enforce candidateIds principal live tally x).truth ↔
      cid ∈ tally.truth ∨ (cid = x ∧ judge scenario variant principal x = .granted) := by
  unfold listedStep judge
  cases variant.chunks.get? x with
  | none => simp
  | some chunk =>
      dsimp only
      split_ifs <;> simp [or_comm]

private theorem mem_undetermined_listedStep (candidateIds : List String)
    (live : Option (List String)) (cid : String) (tally : Tally) (x : String) :
    cid ∈ (listedStep scenario variant enforce candidateIds principal live
        tally x).undetermined ↔
      cid ∈ tally.undetermined ∨
        (cid = x ∧ Held variant x ∧ judge scenario variant principal x = .undetermined) := by
  unfold listedStep judge Held
  cases variant.chunks.get? x with
  | none => simp
  | some chunk =>
      dsimp only
      split_ifs <;> simp [or_comm]

private theorem mem_returned_listedStep (candidateIds : List String)
    (live : Option (List String)) (cid : String) (tally : Tally) (x : String) :
    cid ∈ (listedStep scenario variant enforce candidateIds principal live tally x).returned ↔
      cid ∈ tally.returned ∨
        (cid = x ∧ ∃ chunk, variant.chunks.get? x = some chunk ∧
          receives enforce candidateIds principal live x chunk = true) := by
  unfold listedStep
  cases variant.chunks.get? x with
  | none => simp
  | some chunk =>
      dsimp only
      split_ifs <;> simp [*]

private theorem mem_truth_unlistedStep (cid : String) (tally : Tally) (x : String) :
    cid ∈ (unlistedStep scenario variant probe principal tally x).truth ↔
      cid ∈ tally.truth ∨ False := by
  unfold unlistedStep
  cases variant.chunks.get? x with
  | none => split_ifs <;> simp
  | some chunk =>
      dsimp only
      split_ifs <;> simp

private theorem mem_undetermined_unlistedStep (cid : String) (tally : Tally) (x : String) :
    cid ∈ (unlistedStep scenario variant probe principal tally x).undetermined ↔
      cid ∈ tally.undetermined ∨
        (cid = x ∧ x ∉ probe.matchIds ∧
          judge scenario variant principal x = .undetermined) := by
  unfold unlistedStep judge
  cases variant.chunks.get? x with
  | none => split_ifs with hlisted <;> simp [hlisted, or_comm]
  | some chunk =>
      dsimp only
      split_ifs <;> simp_all [or_comm]

private theorem mem_returned_unlistedStep (cid : String) (tally : Tally) (x : String) :
    cid ∈ (unlistedStep scenario variant probe principal tally x).returned ↔
      cid ∈ tally.returned ∨
        (cid = x ∧ x ∉ probe.matchIds ∧
          judge scenario variant principal x ≠ .granted) := by
  unfold unlistedStep judge
  cases variant.chunks.get? x with
  | none => split_ifs with hlisted <;> simp [hlisted]
  | some chunk =>
      dsimp only
      split_ifs <;> simp_all

/-! ### What both loops collect -/

/-- The truth is what the sources grant among the ids the probe lists. -/
theorem mem_truth_tallyOf (live : Option (List String)) (cid : String) :
    cid ∈ (tallyOf scenario variant enforce probe principal live).truth ↔
      cid ∈ probe.matchIds ∧ judge scenario variant principal cid = .granted := by
  have hlisted := Loop.foldl_collects (fun tally : Tally => cid ∈ tally.truth)
    (fun x => cid = x ∧ judge scenario variant principal x = .granted)
    (mem_truth_listedStep scenario variant enforce principal
      (candidates probe variant.annLimit) live cid) probe.matchIds {}
  have hunlisted := Loop.foldl_collects (fun tally : Tally => cid ∈ tally.truth)
    (fun _ => False) (mem_truth_unlistedStep scenario variant probe principal cid)
  unfold tallyOf
  cases live with
  | none => simpa using hlisted
  | some answered => simpa [hunlisted] using hlisted

/-- The undetermined ids are the listed ones held without a source and the unlisted
ones a live store answered that are not held or have no source. -/
theorem mem_undetermined_tallyOf (live : Option (List String)) (cid : String) :
    cid ∈ (tallyOf scenario variant enforce probe principal live).undetermined ↔
      judge scenario variant principal cid = .undetermined ∧
        (cid ∈ probe.matchIds ∧ Held variant cid ∨
          cid ∉ probe.matchIds ∧ ∃ answered, live = some answered ∧ cid ∈ answered) := by
  have hlisted := Loop.foldl_collects (fun tally : Tally => cid ∈ tally.undetermined)
    (fun x => cid = x ∧ Held variant x ∧ judge scenario variant principal x = .undetermined)
    (mem_undetermined_listedStep scenario variant enforce principal
      (candidates probe variant.annLimit) live cid) probe.matchIds {}
  have hunlisted := Loop.foldl_collects (fun tally : Tally => cid ∈ tally.undetermined)
    (fun x => cid = x ∧ x ∉ probe.matchIds ∧
      judge scenario variant principal x = .undetermined)
    (mem_undetermined_unlistedStep scenario variant probe principal cid)
  unfold tallyOf
  cases live with
  | none =>
      rw [hlisted]
      simp only [Finset.notMem_empty, ↓existsAndEq, true_and, false_or, reduceCtorEq,
        false_and, exists_const, and_false, or_false]
      tauto
  | some answered =>
      rw [hunlisted, hlisted]
      simp only [Finset.notMem_empty, ↓existsAndEq, true_and, false_or, Option.some.injEq,
        exists_eq_left']
      tauto

/-- What was returned: the listed ids that reached the principal, and the unlisted
ones a live store answered without a grant. -/
theorem mem_returned_tallyOf (live : Option (List String)) (cid : String) :
    cid ∈ (tallyOf scenario variant enforce probe principal live).returned ↔
      (cid ∈ probe.matchIds ∧ ∃ chunk, variant.chunks.get? cid = some chunk ∧
          receives enforce (candidates probe variant.annLimit) principal live cid chunk = true) ∨
        (cid ∉ probe.matchIds ∧ judge scenario variant principal cid ≠ .granted ∧
          ∃ answered, live = some answered ∧ cid ∈ answered) := by
  have hlisted := Loop.foldl_collects (fun tally : Tally => cid ∈ tally.returned)
    (fun x => cid = x ∧ ∃ chunk, variant.chunks.get? x = some chunk ∧
      receives enforce (candidates probe variant.annLimit) principal live x chunk = true)
    (mem_returned_listedStep scenario variant enforce principal
      (candidates probe variant.annLimit) live cid) probe.matchIds {}
  have hunlisted := Loop.foldl_collects (fun tally : Tally => cid ∈ tally.returned)
    (fun x => cid = x ∧ x ∉ probe.matchIds ∧
      judge scenario variant principal x ≠ .granted)
    (mem_returned_unlistedStep scenario variant probe principal cid)
  unfold tallyOf
  cases live with
  | none =>
      rw [hlisted]
      simp only [List.not_mem_nil, ↓existsAndEq, true_and, false_or, reduceCtorEq, false_and,
        exists_const, and_false, or_false]
  | some answered =>
      rw [hunlisted, hlisted]
      simp only [List.not_mem_nil, ↓existsAndEq, true_and, false_or, Option.some.injEq,
        exists_eq_left', ne_eq]
      refine or_congr_right ?_
      tauto

end Loops

/-! ## A result refines its audit -/

section Refinement

variable (scenario : Scenario) (variant : Variant) (enforce : Enforcement)
  (retrieve : Option Retrieve) (q : Question)

/-- What is returned is what was served, less the listed ids the index does not hold
and the unlisted ids the sources grant. -/
theorem mem_returned_iff (cid : String) :
    cid ∈ (answerTo scenario variant enforce retrieve q).returned ↔
      cid ∈ (comparison scenario variant enforce retrieve q).served ∧
        (cid ∈ q.probe.matchIds ∧ Held variant cid ∨
          cid ∉ q.probe.matchIds ∧ judge scenario variant q.principal cid ≠ .granted) := by
  change cid ∈ (tallyOf scenario variant enforce q.probe q.principal
    (q.live variant retrieve)).returned ↔ _
  rw [mem_returned_tallyOf]
  simp only [comparison]
  cases q.live variant retrieve with
  | none =>
      have hlisted := fun hcandidate : cid ∈ candidates q.probe variant.annLimit =>
        candidates_subset q.probe variant.annLimit hcandidate
      simp only [receives, Question.served, Held, Set.mem_ofPred_eq, Bool.and_eq_true,
        decide_eq_true_eq]
      constructor
      · intro hreported
        rcases hreported with
          ⟨hmatch, chunk, hchunk, hcandidate, hadmit⟩ | ⟨-, -, answered, hnone, -⟩
        · exact ⟨⟨hcandidate, chunk, hchunk, hadmit⟩, Or.inl ⟨hmatch, chunk, hchunk⟩⟩
        · cases hnone
      · intro hreported
        rcases hreported with ⟨⟨hcandidate, chunk, hchunk, hadmit⟩, -⟩
        exact Or.inl ⟨hlisted hcandidate, chunk, hchunk, hcandidate, hadmit⟩
  | some answered =>
      simp only [receives, Question.served, Held, Set.mem_ofPred_eq, decide_eq_true_eq,
        Option.some.injEq, exists_eq_left', exists_and_right]
      tauto

/-- An id served without being listed was answered by a live store. -/
theorem answered_of_served_of_unlisted (cid : String)
    (hserved : cid ∈ (comparison scenario variant enforce retrieve q).served)
    (hunlisted : cid ∉ q.probe.matchIds) :
    ∃ answered, q.live variant retrieve = some answered ∧ cid ∈ answered := by
  simp only [comparison] at hserved
  cases hlive : q.live variant retrieve with
  | none =>
      rw [hlive] at hserved
      exact absurd (candidates_subset q.probe variant.annLimit hserved.1) hunlisted
  | some answered =>
      rw [hlive] at hserved
      exact ⟨answered, rfl, hserved⟩

/-- The over-retrieved ids are exactly those of the audit. -/
theorem mem_overRetrieved_iff (cid : String) :
    cid ∈ (answerTo scenario variant enforce retrieve q).overRetrieved ↔
      cid ∈ (comparison scenario variant enforce retrieve q).overServed := by
  have hreturned := mem_returned_iff scenario variant enforce retrieve q cid
  have htruth := mem_truth_tallyOf scenario variant enforce q.probe q.principal
    (q.live variant retrieve) cid
  have hundetermined := mem_undetermined_tallyOf scenario variant enforce q.probe q.principal
    (q.live variant retrieve) cid
  have hlive := answered_of_served_of_unlisted scenario variant enforce retrieve q cid
  simp only [answerTo, probeResult, Finset.mem_sdiff, List.mem_toFinset] at hreturned ⊢
  rw [hreturned, htruth, hundetermined]
  change _ ↔ cid ∈ (comparison scenario variant enforce retrieve q).served ∧
    judge scenario variant q.principal cid = .denied
  cases hjudge : judge scenario variant q.principal cid with
  | granted =>
      constructor
      · intro hreported
        rcases hreported with ⟨⟨⟨-, hlisted | hunlisted⟩, htruth⟩, -⟩
        · exact absurd ⟨hlisted.1, rfl⟩ htruth
        · exact absurd rfl hunlisted.2
      · intro haudited
        rcases haudited with ⟨-, hdenied⟩
        cases hdenied
  | denied =>
      have hheld := held_of_judge_ne scenario variant q.principal cid (by simp [hjudge])
      constructor
      · intro hreported
        rcases hreported with ⟨⟨⟨hserved, -⟩, -⟩, -⟩
        exact ⟨hserved, rfl⟩
      · intro haudited
        rcases haudited with ⟨hserved, -⟩
        refine ⟨⟨⟨hserved, ?_⟩, by simp⟩, by simp⟩
        by_cases hlisted : cid ∈ q.probe.matchIds
        · exact Or.inl ⟨hlisted, hheld⟩
        · exact Or.inr ⟨hlisted, by simp⟩
  | undetermined =>
      constructor
      · intro hreported
        rcases hreported with ⟨⟨⟨hserved, hkind⟩, -⟩, hcollected⟩
        refine absurd ⟨rfl, ?_⟩ hcollected
        exact hkind.imp id fun hunlisted => ⟨hunlisted.1, hlive hserved hunlisted.1⟩
      · intro haudited
        rcases haudited with ⟨-, hdenied⟩
        cases hdenied

/-- The under-retrieved ids are exactly those of the audit. -/
theorem mem_underRetrieved_iff (cid : String) :
    cid ∈ (answerTo scenario variant enforce retrieve q).underRetrieved ↔
      cid ∈ (comparison scenario variant enforce retrieve q).underServed := by
  have hreturned := mem_returned_iff scenario variant enforce retrieve q cid
  have htruth := mem_truth_tallyOf scenario variant enforce q.probe q.principal
    (q.live variant retrieve) cid
  simp only [answerTo, probeResult, Finset.mem_sdiff, List.mem_toFinset] at hreturned ⊢
  rw [hreturned, htruth]
  change _ ↔ cid ∈ q.probe.matchIds ∧ judge scenario variant q.principal cid = .granted ∧
    cid ∉ (comparison scenario variant enforce retrieve q).served
  cases hjudge : judge scenario variant q.principal cid with
  | granted =>
      have hheld := held_of_judge_ne scenario variant q.principal cid (by simp [hjudge])
      constructor
      · intro hwithheld
        rcases hwithheld with ⟨⟨hlisted, -⟩, hmissing⟩
        exact ⟨hlisted, rfl, fun hserved => hmissing ⟨hserved, Or.inl ⟨hlisted, hheld⟩⟩⟩
      · intro haudited
        rcases haudited with ⟨hlisted, -, hmissing⟩
        exact ⟨⟨hlisted, rfl⟩, fun hreturned => hmissing hreturned.1⟩
  | denied => simp
  | undetermined => simp

/-- Nothing is over retrieved exactly when the sources deny nothing that was served. -/
theorem overRetrieved_eq_empty_iff :
    (answerTo scenario variant enforce retrieve q).overRetrieved = ∅ ↔
      ∀ cid ∈ (comparison scenario variant enforce retrieve q).served,
        judge scenario variant q.principal cid ≠ .denied := by
  rw [← Finset.coe_eq_empty]
  have hover : ((answerTo scenario variant enforce retrieve q).overRetrieved : Set String) =
      (comparison scenario variant enforce retrieve q).overServed :=
    Set.ext (mem_overRetrieved_iff scenario variant enforce retrieve q)
  rw [hover, Comparison.overServed_eq_empty_iff]
  rfl

/-- Nothing is under retrieved exactly when every listed id the sources grant was
served. -/
theorem underRetrieved_eq_empty_iff :
    (answerTo scenario variant enforce retrieve q).underRetrieved = ∅ ↔
      ∀ cid ∈ q.probe.matchIds, judge scenario variant q.principal cid = .granted →
        cid ∈ (comparison scenario variant enforce retrieve q).served := by
  rw [← Finset.coe_eq_empty]
  have hunder : ((answerTo scenario variant enforce retrieve q).underRetrieved : Set String) =
      (comparison scenario variant enforce retrieve q).underServed :=
    Set.ext (mem_underRetrieved_iff scenario variant enforce retrieve q)
  rw [hunder, Comparison.underServed_eq_empty_iff]
  rfl

/-- The undetermined ids are those of the audit, except served ids that the probe
lists and the index does not hold: the first loop passes over an absent id and the
second over a listed one. -/
theorem mem_undeterminedReturned_iff (cid : String) :
    cid ∈ (answerTo scenario variant enforce retrieve q).undeterminedReturned ↔
      cid ∈ (comparison scenario variant enforce retrieve q).undetermined ∧
        (cid ∈ q.probe.matchIds → Held variant cid) := by
  have hreturned := mem_returned_iff scenario variant enforce retrieve q cid
  have hundetermined := mem_undetermined_tallyOf scenario variant enforce q.probe q.principal
    (q.live variant retrieve) cid
  have hlive := answered_of_served_of_unlisted scenario variant enforce retrieve q cid
  simp only [answerTo, probeResult, Finset.mem_inter, List.mem_toFinset] at hreturned ⊢
  rw [hreturned, hundetermined]
  change _ ↔ (cid ∈ (comparison scenario variant enforce retrieve q).served ∧
    judge scenario variant q.principal cid = .undetermined) ∧ _
  cases hjudge : judge scenario variant q.principal cid with
  | granted => simp
  | denied => simp
  | undetermined =>
      constructor
      · intro hreported
        rcases hreported with ⟨⟨hserved, hkind⟩, -⟩
        refine ⟨⟨hserved, rfl⟩, fun hlisted => ?_⟩
        exact hkind.elim And.right fun hunlisted => absurd hlisted hunlisted.1
      · intro haudited
        rcases haudited with ⟨⟨hserved, -⟩, hheld⟩
        by_cases hlisted : cid ∈ q.probe.matchIds
        · have hkind := And.intro hlisted (hheld hlisted)
          exact ⟨⟨hserved, Or.inl hkind⟩, rfl, Or.inl hkind⟩
        · exact ⟨⟨hserved, Or.inr ⟨hlisted, by simp⟩⟩, rfl,
            Or.inr ⟨hlisted, hlive hserved hlisted⟩⟩

end Refinement

end Tearline
