import Tearline.Differential
import Tearline.Verify.Report

/-!
# What a clean result and a zero status say

The two axes are computed from different data.  A silent propagation axis makes the
simulated differential clean, a served chunk with no stated entitlement is caught by
one axis or the other, and the exit status is zero exactly when an index could not be
told from its source.

Main results:

- Theorem {lit}`clean_of_silent`: silence on the propagation axis under faithful
  enforcement.
- Theorem {lit}`unstated_never_passes`: a served chunk with an unknown entitlement.
- Theorem {lit}`exitStatus_verify_clean_iff`: what a zero status says, for every scenario.
- Theorem {lit}`exitStatus_verify_eq_zero_iff`: the same over declared principals.
-/

namespace Tearline

/-! ## Silence on the propagation axis -/

/-- When a chunk agrees with its one located source, its sources grant exactly what its
tag grants. -/
theorem sourcesGrant_iff_of_same {scenario : Scenario} {chunk : Chunk} {source : SourceDocument}
    (hsources : locatedSources scenario chunk = [source])
    (hsame : same chunk.entitlement source.entitlement = true) (principal : Principal) :
    SourcesGrant scenario chunk principal ↔
      scenario.rule.entitled chunk.entitlement principal = true := by
  simp [SourcesGrant, hsources, entitled_eq_of_same scenario.rule principal hsame]

/-- The result of a question over a clean index: nothing over retrieved or undetermined,
and nothing under retrieved but what the limit cuts off. -/
structure CleanResult (scenario : Scenario) (variant : Variant) (q : Question)
    (r : ProbeResult) : Prop where
  overRetrieved : r.overRetrieved = ∅
  undetermined : r.undeterminedReturned = ∅
  under_unlimited : variant.annLimit = none → r.underRetrieved = ∅
  under_limited : ∀ k, variant.annLimit = some k → 0 < k → ∀ cid,
    cid ∈ r.underRetrieved ↔ cid ∈ q.probe.matchIds ∧
      (∃ chunk, variant.chunks.get? cid = some chunk ∧
        SourcesGrant scenario chunk q.principal) ∧
      cid ∉ q.probe.matchIds.take k.toNat

/-- Over an index on which the propagation check is silent, faithful enforcement serves
exactly the candidates whose sources grant them. -/
theorem served_iff_of_silent {scenario : Scenario} {variant : Variant} {untraceable : Nat}
    (hsilent : checkPropagation scenario variant = .ok ([], untraceable)) (q : Question)
    (cid : String) :
    cid ∈ (comparison scenario variant scenario.rule.entitled none q).served ↔
      cid ∈ candidates q.probe variant.annLimit ∧
        judge scenario variant q.principal cid = .granted := by
  apply and_congr_right
  intro _
  rw [judge_eq_granted_iff]
  apply exists_congr
  intro chunk
  apply and_congr_right
  intro hchunk
  obtain ⟨source, hsources, hsame⟩ := (checkPropagation_silent_iff scenario variant).mp
    ⟨untraceable, hsilent⟩ chunk (Dict.mem_values_of_get? hchunk)
  exact (sourcesGrant_iff_of_same hsources hsame q.principal).symm

/-- Over such an index, what is under retrieved is what the candidate limit cuts off. -/
theorem mem_underRetrieved_iff_of_silent {scenario : Scenario} {variant : Variant}
    {untraceable : Nat} (hsilent : checkPropagation scenario variant = .ok ([], untraceable))
    (q : Question) (cid : String) :
    cid ∈ (answerTo scenario variant scenario.rule.entitled none q).underRetrieved ↔
      cid ∈ q.probe.matchIds ∧ judge scenario variant q.principal cid = .granted ∧
        cid ∉ candidates q.probe variant.annLimit := by
  rw [mem_underRetrieved_iff]
  refine and_congr_right fun _ => and_congr_right fun hgranted => not_congr ?_
  rw [served_iff_of_silent hsilent]
  exact and_iff_left hgranted

/-- Under faithful enforcement a silent propagation axis leaves a clean differential, up
to what the candidate limit cuts off. -/
theorem clean_of_silent {scenario : Scenario} {variant : Variant} {untraceable : Nat}
    {results : List ProbeResult} {skipped : List String} (hrule : variant.enforcement = "rule")
    (hsilent : checkPropagation scenario variant = .ok ([], untraceable))
    (hrun : runProbes scenario variant none = .ok (results, skipped)) :
    List.Forall₂ (CleanResult scenario variant) (questions scenario) results := by
  apply forall₂_results hrun
  intro enforce henforce q _
  rw [hrule, enforcementFor_rule] at henforce
  cases henforce
  have hserved := served_iff_of_silent hsilent q
  have hunder := mem_underRetrieved_iff_of_silent hsilent q
  refine ⟨?_, ?_, fun hlimit => ?_, fun k hlimit hk cid => ?_⟩
  · apply Finset.eq_empty_of_forall_notMem
    intro cid hcid
    have hover := (mem_overRetrieved_iff _ _ _ _ _ _).mp hcid
    have hgranted := ((hserved cid).mp hover.1).2
    exact Audit.Judgement.noConfusion (hgranted.symm.trans hover.2)
  · apply Finset.eq_empty_of_forall_notMem
    intro cid hcid
    have hundetermined := ((mem_undeterminedReturned_iff _ _ _ _ _ _).mp hcid).1
    have hgranted := ((hserved cid).mp hundetermined.1).2
    exact Audit.Judgement.noConfusion (hgranted.symm.trans hundetermined.2)
  · apply Finset.eq_empty_of_forall_notMem
    intro cid hcid
    rcases (hunder cid).mp hcid with ⟨hlisted, -, hcut⟩
    rw [hlimit] at hcut
    exact hcut hlisted
  · have htake : candidates q.probe variant.annLimit = q.probe.matchIds.take k.toNat := by
      simp [hlimit, candidates, sliceTo, hk.ne', hk.le]
    rw [hunder, judge_eq_granted_iff, htake]

/-- The simulated results of {lit}`payroll` over its index. -/
def payrollSimulated : List ProbeResult :=
  [{ probeId := "q-payroll", principalId := "p-hr", returned := ["c-payroll"],
     overRetrieved := ∅, underRetrieved := ∅, verdict := .verified, outcome := .clean,
     absentFromIndex := {"c-lost"} },
    { probeId := "q-payroll", principalId := "p-eng", returned := [], overRetrieved := ∅,
      underRetrieved := ∅, verdict := .verified, outcome := .clean,
      absentFromIndex := {"c-lost"} }]

theorem clean_of_silent_payroll :
    List.Forall₂ (CleanResult payroll payrollIndex) (questions payroll) payrollSimulated :=
  clean_of_silent rfl (by decide +kernel : _ = Except.ok ([], 0))
    (by decide +kernel : _ = Except.ok (payrollSimulated, []))

/-! ## A served chunk with no stated entitlement -/

/-- A finding makes the status one. -/
theorem exitStatus_of_finding {report : VerificationReport} {f : PropagationFinding}
    (h : f ∈ report.propagation) : exitStatus report = 1 := by
  rw [exitStatus_eq_one_iff, ne_eq, exitStatus_eq_zero_iff]
  intro hclean
  rcases hclean with ⟨hnone, -⟩
  simp [hnone] at h

/-- A result that over retrieves makes the status one. -/
theorem exitStatus_of_over {scenario : Scenario} {variant : Variant} {enforce : Enforcement}
    {retrieve : Option Retrieve} {q : Question} {report : VerificationReport} {cid : String}
    (hr : answerTo scenario variant enforce retrieve q ∈ report.probes)
    (hcid : cid ∈ (answerTo scenario variant enforce retrieve q).overRetrieved) :
    exitStatus report = 1 := by
  rw [exitStatus_eq_one_iff, ne_eq, exitStatus_eq_zero_iff]
  intro hclean
  rcases hclean with ⟨-, hverdicts, -⟩
  have hclean := (verdict_ne_contradicted_iff _ _ _ _ _).mp (hverdicts _ hr)
  simp [hclean.1] at hcid

/-- A served chunk tagged {lit}`unknown` on which the propagation axis is silent is over
retrieved: its one located source states nothing either. -/
theorem overRetrieved_of_unstated {scenario : Scenario} {variant : Variant}
    {enforce : Enforcement} {retrieve : Option Retrieve} {q : Question} {cid : String}
    {chunk : Chunk} {source : SourceDocument} (hchunk : variant.chunks.get? cid = some chunk)
    (hunknown : chunk.entitlement.state = .unknown)
    (hserved : cid ∈ q.served variant enforce (q.live variant retrieve))
    (hsources : locatedSources scenario chunk = [source])
    (hsame : same chunk.entitlement source.entitlement = true) :
    cid ∈ (answerTo scenario variant enforce retrieve q).overRetrieved := by
  rw [mem_overRetrieved_iff]
  refine ⟨hserved, (judge_eq_denied_iff _ _ _ _).mpr ⟨chunk, hchunk, source, ?_, ?_⟩⟩
  · simp [hsources]
  · rw [← entitled_eq_of_same scenario.rule q.principal hsame]
    exact scenario.rule.entitled_of_unknown q.principal hunknown

/-- Whenever a chunk tagged {lit}`unknown` is served for a question, it has a finding or
is over retrieved in that question's result, and the status is one. -/
theorem unstated_never_passes {scenario : Scenario} {variant : Variant}
    {retrieve : Option Retrieve} {site : String} {report : VerificationReport}
    (hverify : verify scenario variant retrieve site = .ok report) :
    List.Forall₂
      (fun q r => ∀ enforce, enforcementFor scenario.rule variant.enforcement = .ok enforce →
        ∀ cid chunk, variant.chunks.get? cid = some chunk →
          chunk.entitlement.state = .unknown →
          cid ∈ q.served variant enforce (q.live variant retrieve) →
          ((∃ f ∈ report.propagation, f.chunkId = cid) ∨ cid ∈ r.overRetrieved) ∧
            exitStatus report = 1)
      (questions scenario) report.probes := by
  rcases (verify_eq_ok_iff _ _ _ _ _).mp hverify with ⟨hcheck, hrun, -⟩
  have hresults := (runProbes_eq_ok_iff _ _ _ _ _).mp hrun
  apply forall₂_results hrun
  intro enforce henforce q hq other hother
  cases henforce.symm.trans hother
  intro cid chunk hchunk hunknown hserved
  have hmem := Dict.mem_values_of_get? hchunk
  by_cases hfinding : ∃ f ∈ report.propagation, f.chunkId = chunk.id
  · rcases hfinding with ⟨f, hf, hid⟩
    exact ⟨Or.inl ⟨f, hf, hid.trans (variant.keyed _ _ hchunk)⟩, exitStatus_of_finding hf⟩
  · rw [exists_finding_iff_not_same hcheck hmem, not_not] at hfinding
    rcases hfinding with ⟨source, hsources, hsame⟩
    have hover := overRetrieved_of_unstated hchunk hunknown hserved hsources hsame
    refine ⟨Or.inr hover, exitStatus_of_over ?_ hover⟩
    rcases hresults with ⟨other, hother, -, hprobes, -⟩
    cases henforce.symm.trans hother
    rw [hprobes]
    exact List.mem_map_of_mem hq

/-- A page whose entitlement the source system never stated. -/
def unstated : Scenario :=
  Scenario.ofLists "unstated"
    [{ id := "d-notes", system := "wiki", entitlement := { state := .unknown } }]
    [{ id := "p-hr", label := "HR", roles := {"hr"} },
      { id := "p-eng", label := "Engineering", roles := {"eng"} }]
    [{ id := "q-notes", query := "notes", principals := ["p-hr", "p-eng"],
       matchIds := ["c-notes"] }]
    { system := "wiki", tenant := .ignored, role := .intersects, direct := .ignored,
      combine := .tenantAndRole }

/-- The index of {lit}`unstated`, tagged as its source and behind a filter that reads
absence as permission. -/
def unstatedIndex : Variant :=
  Variant.ofChunks "unstated"
    [{ id := "c-notes", sourceDocumentIds := ["d-notes"], entitlement := { state := .unknown } }]
    "naive-tenant-exclusion" none

/-- Its report: no finding, and the page over retrieved by everyone. -/
def unstatedReport : VerificationReport where
  chunksExamined := 1
  chunksUntraceable := 0
  propagation := []
  probes :=
    [{ probeId := "q-notes", principalId := "p-hr", returned := ["c-notes"],
       overRetrieved := {"c-notes"}, underRetrieved := ∅, verdict := .contradicted,
       outcome := .overRetrieval },
      { probeId := "q-notes", principalId := "p-eng", returned := ["c-notes"],
        overRetrieved := {"c-notes"}, underRetrieved := ∅, verdict := .contradicted,
        outcome := .overRetrieval }]
  probesSkipped := []
  isPartial := false

theorem unstated_never_passes_unstated :
    List.Forall₂
      (fun q r => ∀ enforce,
        enforcementFor unstated.rule unstatedIndex.enforcement = .ok enforce →
        ∀ cid chunk, unstatedIndex.chunks.get? cid = some chunk →
          chunk.entitlement.state = .unknown →
          cid ∈ q.served unstatedIndex enforce (q.live unstatedIndex none) →
          ((∃ f ∈ unstatedReport.propagation, f.chunkId = cid) ∨ cid ∈ r.overRetrieved) ∧
            exitStatus unstatedReport = 1)
      (questions unstated) unstatedReport.probes :=
  unstated_never_passes
    (by decide +kernel : verify unstated unstatedIndex none "simulated" = .ok unstatedReport)

/-! ## What a zero status says -/

/-- What a pipeline reads a zero status as, for an index behind a live store. -/
structure PipelineClean (scenario : Scenario) (variant : Variant) (ask : Retrieve) : Prop where
  tagged : ∀ chunk ∈ variant.chunks.values, ∃ source, locatedSources scenario chunk = [source] ∧
    chunk.entitlement.state = source.entitlement.state ∧
    chunk.entitlement.tenants = source.entitlement.tenants ∧
    chunk.entitlement.roles = source.entitlement.roles ∧
    chunk.entitlement.principals = source.entitlement.principals
  covered : ∀ probe ∈ scenario.probes, 2 ≤ probe.principals.length ∧
    ∀ cid ∈ probe.matchIds, Held variant cid
  answered_granted : ∀ q ∈ questions scenario, ∀ cid ∈ q.answers variant ask,
    ∀ chunk, variant.chunks.get? cid = some chunk → SourcesGrant scenario chunk q.principal
  granted_answered : ∀ q ∈ questions scenario, ∀ cid ∈ q.probe.matchIds,
    ∀ chunk, variant.chunks.get? cid = some chunk → SourcesGrant scenario chunk q.principal →
      cid ∈ q.answers variant ask

/-- No probe is skipped exactly when every probe names at least two principals. -/
theorem skipped_eq_nil_iff (probes : List Probe) :
    (probes.filter fun probe => !probe.runnable).map Probe.id = [] ↔
      ∀ probe ∈ probes, 2 ≤ probe.principals.length := by
  rw [List.map_eq_nil_iff, List.filter_eq_nil_iff]
  apply forall₂_congr
  intro probe _
  rw [Bool.not_eq_true', Bool.not_eq_false, Probe.runnable, decide_eq_true_eq]

/-- A result reports no absent id exactly when the index holds every id its probe lists. -/
theorem absentFromIndex_eq_empty_iff (scenario : Scenario) (variant : Variant)
    (enforce : Enforcement) (retrieve : Option Retrieve) (q : Question) :
    (answerTo scenario variant enforce retrieve q).absentFromIndex = ∅ ↔
      ∀ cid ∈ q.probe.matchIds, Held variant cid := by
  simp [answerTo, probeResult, Held, Option.ne_none_iff_exists']

/-- A run of both axes exits with zero exactly when the propagation axis is silent, no
probe is skipped, and no result is contradicted or misses an id. -/
theorem exitStatus_verify_eq_zero_iff_axes (scenario : Scenario) (variant : Variant)
    (retrieve : Option Retrieve) (site : String) :
    (verify scenario variant retrieve site).map exitStatus = .ok 0 ↔
      (∃ untraceable, checkPropagation scenario variant = .ok ([], untraceable)) ∧
        ∃ results, runProbes scenario variant retrieve = .ok (results, []) ∧
          ∀ r ∈ results, r.verdict ≠ .contradicted ∧ r.absentFromIndex = ∅ := by
  rw [Loop.map_eq_ok]
  constructor
  · intro hexit
    rcases hexit with ⟨report, hverify, hzero⟩
    rcases (verify_eq_ok_iff _ _ _ _ _).mp hverify with ⟨hcheck, hrun, -, hflag, -⟩
    rcases (exitStatus_eq_zero_iff report).mp hzero with ⟨hsilent, hverdicts, hcomplete⟩
    rw [hcomplete, eq_comm, Bool.or_eq_false_iff, Bool.not_eq_false', List.isEmpty_iff,
      List.any_eq_false] at hflag
    rw [hsilent] at hcheck
    rw [hflag.1] at hrun
    refine ⟨⟨_, hcheck⟩, _, hrun, fun r hr => ⟨hverdicts r hr, ?_⟩⟩
    simpa using hflag.2 r hr
  · intro haxes
    rcases haxes with ⟨⟨untraceable, hcheck⟩, results, hrun, hresults⟩
    refine ⟨{ chunksExamined := variant.chunks.values.length, chunksUntraceable := untraceable,
              propagation := [], probes := results, probesSkipped := [], isPartial := false,
              enforcementSite := site }, (verify_eq_ok_iff _ _ _ _ _).mpr ?_, ?_⟩
    · refine ⟨hcheck, hrun, rfl, ?_, rfl⟩
      simpa using fun r hr => (hresults r hr).2
    · rw [exitStatus_eq_zero_iff]
      exact ⟨rfl, fun r hr => (hresults r hr).1, rfl⟩

/-- A held chunk with one located source is granted unless it is denied. -/
theorem sourcesGrant_of_judge_ne_denied {scenario : Scenario} {variant : Variant}
    {principal : Principal} {cid : String} {chunk : Chunk} {source : SourceDocument}
    (hchunk : variant.chunks.get? cid = some chunk)
    (hsources : locatedSources scenario chunk = [source])
    (h : judge scenario variant principal cid ≠ .denied) :
    SourcesGrant scenario chunk principal := by
  refine ⟨by simp [hsources], fun other hother => ?_⟩
  by_contra hdenies
  exact h ((judge_eq_denied_iff _ _ _ _).mpr
    ⟨chunk, hchunk, other, hother, Bool.eq_false_iff.mpr hdenies⟩)

/-- When every chunk has one located source, a live result is not contradicted exactly when
every answered chunk is granted and every granted listed chunk is answered. -/
theorem verdict_ne_contradicted_iff_of_sources {scenario : Scenario} {variant : Variant}
    (hsources : ∀ chunk ∈ variant.chunks.values, ∃ source,
      locatedSources scenario chunk = [source])
    (enforce : Enforcement) (ask : Retrieve) (q : Question) :
    (answerTo scenario variant enforce (some ask) q).verdict ≠ .contradicted ↔
      (∀ cid ∈ q.answers variant ask, ∀ chunk, variant.chunks.get? cid = some chunk →
          SourcesGrant scenario chunk q.principal) ∧
        ∀ cid ∈ q.probe.matchIds, ∀ chunk, variant.chunks.get? cid = some chunk →
          SourcesGrant scenario chunk q.principal → cid ∈ q.answers variant ask := by
  rw [verdict_ne_contradicted_iff, overRetrieved_eq_empty_iff, underRetrieved_eq_empty_iff]
  refine and_congr (forall₂_congr fun cid _ => ?_) (forall₂_congr fun cid _ => ?_)
  · constructor
    · intro hdenied chunk hchunk
      rcases hsources chunk (Dict.mem_values_of_get? hchunk) with ⟨source, hsource⟩
      exact sourcesGrant_of_judge_ne_denied hchunk hsource hdenied
    · intro hgranted hdenied
      obtain ⟨chunk, hchunk, source, hsource, hdenies⟩ := (judge_eq_denied_iff _ _ _ _).mp hdenied
      have hgrants := (hgranted chunk hchunk).2 source hsource
      exact Bool.noConfusion (hdenies.symm.trans hgrants)
  · rw [judge_eq_granted_iff]
    constructor
    · intro hanswered chunk hchunk hgrant
      exact hanswered ⟨chunk, hchunk, hgrant⟩
    · intro hanswered hgranted
      rcases hgranted with ⟨chunk, hchunk, hgrant⟩
      exact hanswered chunk hchunk hgrant

/-- When every probe is runnable and its principals are declared, what holds of every
question's probe holds of every probe. -/
theorem forall_questions_probe_iff {scenario : Scenario}
    (hdeclared : ∀ probe ∈ scenario.probes, ∀ pid ∈ probe.principals,
      ∃ principal, scenario.principals.get? pid = some principal)
    (hrunnable : ∀ probe ∈ scenario.probes, 2 ≤ probe.principals.length) (P : Probe → Prop) :
    (∀ q ∈ questions scenario, P q.probe) ↔ ∀ probe ∈ scenario.probes, P probe := by
  constructor
  · intro hall probe hprobe
    have hlength := hrunnable probe hprobe
    obtain ⟨pid, hpid⟩ := List.exists_mem_of_length_pos (Nat.lt_of_lt_of_le Nat.zero_lt_two hlength)
    rcases hdeclared probe hprobe pid hpid with ⟨principal, hfound⟩
    rcases exists_question hprobe (decide_eq_true hlength) hpid hfound with ⟨q, hq, rfl, -⟩
    exact hall q hq
  · intro hall q hq
    exact hall q.probe (question_of_mem hq).1.1

/-- A clean pipeline leaves nothing on either axis. -/
theorem axes_of_pipelineClean {scenario : Scenario} {variant : Variant} {ask : Retrieve}
    (hdeclared : ∀ probe ∈ scenario.probes, ∀ pid ∈ probe.principals,
      ∃ principal, scenario.principals.get? pid = some principal)
    (henforcement : variant.enforcement ∈ enforcementModels)
    (hclean : PipelineClean scenario variant ask) :
    (∃ untraceable, checkPropagation scenario variant = .ok ([], untraceable)) ∧
      ∃ results, runProbes scenario variant (some ask) = .ok (results, []) ∧
        ∀ r ∈ results, r.verdict ≠ .contradicted ∧ r.absentFromIndex = ∅ := by
  rcases (enforcementFor_isOk_iff scenario.rule _).mpr henforcement with ⟨enforce, henforce⟩
  have hsources : ∀ chunk ∈ variant.chunks.values, ∃ source,
      locatedSources scenario chunk = [source] := fun chunk hchunk =>
    (hclean.tagged chunk hchunk).imp fun _ hsource => hsource.1
  have hskipped := (skipped_eq_nil_iff scenario.probes).mpr fun probe hprobe =>
    (hclean.covered probe hprobe).1
  constructor
  · rw [checkPropagation_silent_iff]
    simp only [same_eq_true_iff]
    exact hclean.tagged
  · refine ⟨_, (runProbes_eq_ok_iff _ _ _ _ _).mpr
      ⟨enforce, henforce, fun probe hprobe _ => hdeclared probe hprobe, rfl, hskipped.symm⟩, ?_⟩
    intro r hr
    rcases List.mem_map.mp hr with ⟨q, hq, rfl⟩
    rw [verdict_ne_contradicted_iff_of_sources hsources, absentFromIndex_eq_empty_iff]
    exact ⟨⟨hclean.answered_granted q hq, hclean.granted_answered q hq⟩,
      (hclean.covered q.probe (question_of_mem hq).1.1).2⟩

/-- Against a live store a verification exits with zero exactly when its enforcement model is
known, its probes name declared principals, and it is a clean pipeline. -/
theorem exitStatus_verify_clean_iff (scenario : Scenario) (variant : Variant) (ask : Retrieve)
    (site : String) :
    (verify scenario variant (some ask) site).map exitStatus = .ok 0 ↔
      variant.enforcement ∈ enforcementModels ∧
        (∀ probe ∈ scenario.probes, ∀ pid ∈ probe.principals,
          ∃ principal, scenario.principals.get? pid = some principal) ∧
        PipelineClean scenario variant ask := by
  rw [exitStatus_verify_eq_zero_iff_axes]
  constructor
  · intro haxes
    rw [checkPropagation_silent_iff] at haxes
    rcases haxes with ⟨htagged, results, hrun, hresults⟩
    rcases (runProbes_eq_ok_iff _ _ _ _ _).mp hrun with
      ⟨enforce, henforce, hnamed, rfl, hskipped⟩
    have hrunnable := (skipped_eq_nil_iff scenario.probes).mp hskipped.symm
    have hdeclared : ∀ probe ∈ scenario.probes, ∀ pid ∈ probe.principals,
        ∃ principal, scenario.principals.get? pid = some principal := fun probe hprobe =>
      hnamed probe hprobe (decide_eq_true (hrunnable probe hprobe))
    have hsources : ∀ chunk ∈ variant.chunks.values, ∃ source,
        locatedSources scenario chunk = [source] := fun chunk hchunk =>
      (htagged chunk hchunk).imp fun _ hsource => hsource.1
    have hcovered := (forall_questions_probe_iff hdeclared hrunnable
      fun probe => ∀ cid ∈ probe.matchIds, Held variant cid).mp fun q hq =>
        (absentFromIndex_eq_empty_iff _ _ _ _ _).mp (hresults _ (List.mem_map_of_mem hq)).2
    have hanswers := fun q (hq : q ∈ questions scenario) =>
      (verdict_ne_contradicted_iff_of_sources hsources enforce ask q).mp
        (hresults _ (List.mem_map_of_mem hq)).1
    simp only [same_eq_true_iff] at htagged
    exact ⟨(enforcementFor_isOk_iff _ _).mp ⟨enforce, henforce⟩, hdeclared, htagged,
      fun probe hprobe => ⟨hrunnable probe hprobe, hcovered probe hprobe⟩,
      fun q hq => (hanswers q hq).1, fun q hq => (hanswers q hq).2⟩
  · intro hclean
    exact axes_of_pipelineClean hclean.2.1 hclean.1 hclean.2.2

/-- Over probes that name declared principals, the exit status against a live store is zero exactly
when the enforcement model is known, every chunk is tagged as its one source, every probe is
complete, and every question is answered as the sources grant. -/
theorem exitStatus_verify_eq_zero_iff {scenario : Scenario}
    (hdeclared : ∀ probe ∈ scenario.probes, ∀ pid ∈ probe.principals,
      ∃ principal, scenario.principals.get? pid = some principal)
    (variant : Variant) (ask : Retrieve) (site : String) :
    (verify scenario variant (some ask) site).map exitStatus = .ok 0 ↔
      variant.enforcement ∈ enforcementModels ∧ PipelineClean scenario variant ask := by
  rw [exitStatus_verify_clean_iff, and_iff_right hdeclared]

/-- A store that serves nothing of {lit}`unstated` passes. -/
theorem exitStatus_verify_eq_zero_iff_unstated :
    (verify unstated unstatedIndex (some fun _ _ _ _ => []) "live").map exitStatus = .ok 0 ↔
      unstatedIndex.enforcement ∈ enforcementModels ∧
        PipelineClean unstated unstatedIndex fun _ _ _ _ => [] := by
  have hdeclared : ∀ probe ∈ unstated.probes, ∀ pid ∈ probe.principals,
      (unstated.principals.get? pid).isSome = true := by decide +kernel
  exact exitStatus_verify_eq_zero_iff
    (fun probe hprobe pid hpid => Option.isSome_iff_exists.mp (hdeclared probe hprobe pid hpid))
    unstatedIndex _ "live"

end Tearline
