import Tearline.Verify.ProbeAudit

/-!
# Live differentials

A live store answers a question with an arbitrary list of ids.  The results are
then a matter of three things only: what it answered, which documents the index
says each chunk came from, and what the source system grants.

Main results:

- Theorem {lit}`live_differential_exact`: over and under retrieval are exact.
- Theorem {lit}`undetermined_reported_iff`: when every undetermined id served is
  reported.
- Theorem {lit}`runProbes_congr`: results do not depend on the tags.
-/

namespace Tearline

/-- The ids a live store answers to a question of a run over a variant. -/
def Question.answers (q : Question) (variant : Variant) (ask : Retrieve) : List String :=
  ask q.number q.probe q.principal variant.annLimit

/-! ## Over and under retrieval -/

/-- A result over retrieves exactly the answered ids of chunks a located source denies,
and under retrieves exactly the listed ids of chunks all located sources grant that were
not answered. -/
structure ExactDifferential (scenario : Scenario) (variant : Variant) (q : Question)
    (answered : List String) (r : ProbeResult) : Prop where
  probe : r.probeId = q.probe.id
  principal : r.principalId = q.pid
  overRetrieved : ∀ cid, cid ∈ r.overRetrieved ↔ cid ∈ answered ∧
    ∃ chunk, variant.chunks.get? cid = some chunk ∧ SourceDenies scenario chunk q.principal
  underRetrieved : ∀ cid, cid ∈ r.underRetrieved ↔ cid ∈ q.probe.matchIds ∧
    (∃ chunk, variant.chunks.get? cid = some chunk ∧ SourcesGrant scenario chunk q.principal) ∧
    cid ∉ answered

/-- Whatever a live store answers, every result is exact. -/
theorem live_differential_exact {scenario : Scenario} {variant : Variant} {ask : Retrieve}
    {results : List ProbeResult} {skipped : List String}
    (hrun : runProbes scenario variant (some ask) = .ok (results, skipped)) :
    List.Forall₂ (fun q r => ExactDifferential scenario variant q (q.answers variant ask) r)
      (questions scenario) results := by
  refine forall₂_results hrun fun enforce _ q _ => ⟨rfl, rfl, fun cid => ?_, fun cid => ?_⟩
  · rw [mem_overRetrieved_iff]
    exact and_congr_right fun _ => judge_eq_denied_iff _ _ _ _
  · rw [mem_underRetrieved_iff]
    exact and_congr_right fun _ => and_congr_left fun _ => judge_eq_granted_iff _ _ _ _

/-- A payroll page for one role, and a probe that also lists a page the index lost. -/
def payroll : Scenario :=
  Scenario.ofLists "payroll"
    [{ id := "d-payroll", system := "wiki", entitlement := { state := .stated, roles := {"hr"} } }]
    [{ id := "p-hr", label := "HR", roles := {"hr"} },
      { id := "p-eng", label := "Engineering", roles := {"eng"} }]
    [{ id := "q-payroll", query := "payroll", principals := ["p-hr", "p-eng"],
       matchIds := ["c-payroll", "c-lost"] }]
    { system := "wiki", tenant := .ignored, role := .intersects, direct := .ignored,
      combine := .tenantAndRole }

/-- The index of {lit}`payroll`, tagged as its source. -/
def payrollIndex : Variant :=
  Variant.ofChunks "live"
    [{ id := "c-payroll", sourceDocumentIds := ["d-payroll"],
       entitlement := { state := .stated, roles := {"hr"} } }] "rule" none

/-- A store that answers everything the probe lists. -/
def answersAll : Retrieve :=
  fun _ probe _ _ => probe.matchIds

/-- The results of {lit}`payroll` against that store. -/
def payrollResults : List ProbeResult :=
  [{ probeId := "q-payroll", principalId := "p-hr", returned := ["c-payroll"],
     overRetrieved := ∅, underRetrieved := ∅, verdict := .verified, outcome := .clean,
     absentFromIndex := {"c-lost"} },
    { probeId := "q-payroll", principalId := "p-eng", returned := ["c-payroll"],
      overRetrieved := {"c-payroll"}, underRetrieved := ∅, verdict := .contradicted,
      outcome := .overRetrieval, absentFromIndex := {"c-lost"} }]

theorem live_differential_exact_payroll :
    List.Forall₂
      (fun q r => ExactDifferential payroll payrollIndex q (q.answers payrollIndex answersAll) r)
      (questions payroll) payrollResults :=
  live_differential_exact (by decide +kernel : _ = Except.ok (payrollResults, []))

/-! ## Undetermined ids -/

/-- Every id served whose entitlement is undetermined is reported, and so every id
served is accounted for. -/
structure UndeterminedReported (scenario : Scenario) (variant : Variant)
    (principal : Principal) (answered : List String) (r : ProbeResult) : Prop where
  undetermined : ∀ cid, cid ∈ r.undeterminedReturned ↔ cid ∈ answered ∧
    (variant.chunks.get? cid = none ∨
      ∃ chunk, variant.chunks.get? cid = some chunk ∧ locatedSources scenario chunk = [])
  accounted : ∀ cid ∈ answered,
    (∃ chunk, variant.chunks.get? cid = some chunk ∧ SourcesGrant scenario chunk principal) ∨
      cid ∈ r.overRetrieved ∨ cid ∈ r.undeterminedReturned

/-- A judgement is undetermined for an absent id or one without a located source. -/
theorem judge_eq_undetermined_iff_absent (scenario : Scenario) (variant : Variant)
    (principal : Principal) (cid : String) :
    judge scenario variant principal cid = .undetermined ↔
      variant.chunks.get? cid = none ∨
        ∃ chunk, variant.chunks.get? cid = some chunk ∧ locatedSources scenario chunk = [] := by
  rw [judge_eq_undetermined_iff]
  cases variant.chunks.get? cid with
  | none => simp
  | some chunk => simp

/-- Every undetermined id served is reported exactly when no id served is at once
listed by the probe and absent from the index. -/
theorem undetermined_reported_iff {scenario : Scenario} {variant : Variant} {ask : Retrieve}
    {results : List ProbeResult} {skipped : List String}
    (hrun : runProbes scenario variant (some ask) = .ok (results, skipped)) :
    List.Forall₂
      (fun q r =>
        UndeterminedReported scenario variant q.principal (q.answers variant ask) r ↔
          ∀ cid ∈ q.answers variant ask, cid ∈ q.probe.matchIds →
            variant.chunks.get? cid ≠ none)
      (questions scenario) results := by
  apply forall₂_results hrun
  intro enforce _ q _
  have hreported := mem_undeterminedReturned_iff scenario variant enforce (some ask) q
  constructor
  · intro hall cid hanswered hlisted habsent
    have hmem := (hall.undetermined cid).mpr ⟨hanswered, Or.inl habsent⟩
    rcases ((hreported cid).mp hmem).2 hlisted with ⟨chunk, hchunk⟩
    rw [habsent] at hchunk
    cases hchunk
  · intro hheld
    have hundetermined : ∀ cid,
        cid ∈ (answerTo scenario variant enforce (some ask) q).undeterminedReturned ↔
          cid ∈ (comparison scenario variant enforce (some ask) q).undetermined := by
      intro cid
      rw [hreported]
      exact and_iff_left_of_imp fun hmem hlisted =>
        Option.ne_none_iff_exists'.mp (hheld cid hmem.1 hlisted)
    refine ⟨fun cid => ?_, fun cid hanswered => ?_⟩
    · rw [hundetermined]
      exact and_congr_right fun _ => judge_eq_undetermined_iff_absent _ _ _ _
    · rw [mem_overRetrieved_iff, hundetermined]
      have hserved : cid ∈ (comparison scenario variant enforce (some ask) q).served := hanswered
      apply (Audit.Comparison.served_cases _ hserved).imp_left
      intro hgranted
      exact (judge_eq_granted_iff _ _ _ _).mp hgranted

theorem undetermined_reported_iff_payroll :
    List.Forall₂
      (fun q r =>
        UndeterminedReported payroll payrollIndex q.principal
            (q.answers payrollIndex answersAll) r ↔
          ∀ cid ∈ q.answers payrollIndex answersAll, cid ∈ q.probe.matchIds →
            payrollIndex.chunks.get? cid ≠ none)
      (questions payroll) payrollResults :=
  undetermined_reported_iff (by decide +kernel : _ = Except.ok (payrollResults, []))

/-- The lost page is answered, is not in the index, and no result reports it. -/
theorem payroll_lost_page_unreported :
    runProbes payroll payrollIndex (some answersAll) = .ok (payrollResults, []) ∧
      (∀ q ∈ questions payroll, "c-lost" ∈ q.answers payrollIndex answersAll) ∧
      payrollIndex.chunks.get? "c-lost" = none ∧
      (∀ r ∈ payrollResults, "c-lost" ∉ r.undeterminedReturned ∧ "c-lost" ∉ r.overRetrieved) ∧
      ¬ List.Forall₂
        (fun q r => UndeterminedReported payroll payrollIndex q.principal
          (q.answers payrollIndex answersAll) r)
        (questions payroll) payrollResults := by
  have hanswered : ∀ q ∈ questions payroll, "c-lost" ∈ q.answers payrollIndex answersAll := by
    decide +kernel
  have habsent : payrollIndex.chunks.get? "c-lost" = none := by decide +kernel
  have hsilent : ∀ r ∈ payrollResults,
      "c-lost" ∉ r.undeterminedReturned ∧ "c-lost" ∉ r.overRetrieved := by decide +kernel
  refine ⟨by decide +kernel, hanswered, habsent, hsilent, fun hreported => ?_⟩
  rcases Loop.exists_left_of_mem hreported List.mem_cons_self with ⟨q, hq, hr⟩
  exact (hsilent _ List.mem_cons_self).1
    ((hr.undetermined "c-lost").mpr ⟨hanswered q hq, Or.inl habsent⟩)

/-! ## Truth never comes from the index -/

/-- Two indexes hold the same ids and trace each to the same documents. -/
def SameInventory (a b : Variant) : Prop :=
  ∀ cid, (a.chunks.get? cid).map Chunk.sourceDocumentIds =
    (b.chunks.get? cid).map Chunk.sourceDocumentIds

section Congruence

variable {a b : Variant} (hsame : SameInventory a b)

include hsame

/-- Both indexes hold an id or neither does, and its chunks have the same sources. -/
private theorem get?_cases (scenario : Scenario) (cid : String) :
    (a.chunks.get? cid = none ∧ b.chunks.get? cid = none) ∨
      ∃ c d, a.chunks.get? cid = some c ∧ b.chunks.get? cid = some d ∧
        locatedSources scenario c = locatedSources scenario d := by
  have hcid := hsame cid
  cases ha : a.chunks.get? cid with
  | none =>
      rw [ha, Option.map_none, eq_comm, Option.map_eq_none_iff] at hcid
      exact Or.inl ⟨rfl, hcid⟩
  | some c =>
      rw [ha, Option.map_some, eq_comm, Option.map_eq_some_iff] at hcid
      rcases hcid with ⟨d, hd, hsources⟩
      exact Or.inr ⟨c, d, rfl, hd, by simp only [locatedSources, hsources]⟩

private theorem listedStep_congr (scenario : Scenario) (enforce enforce' : Enforcement)
    (candidateIds : List String) (principal : Principal) (answered : List String) :
    listedStep scenario a enforce candidateIds principal (some answered) =
      listedStep scenario b enforce' candidateIds principal (some answered) := by
  funext tally cid
  unfold listedStep
  rcases get?_cases hsame scenario cid with ⟨ha, hb⟩ | ⟨c, d, ha, hb, hsources⟩
  · rw [ha, hb]
  · -- With live answers `receives` reads neither the chunk nor the enforcement model.
    rw [ha, hb]
    dsimp only
    rw [hsources]
    rfl

private theorem unlistedStep_congr (scenario : Scenario) (probe : Probe)
    (principal : Principal) :
    unlistedStep scenario a probe principal = unlistedStep scenario b probe principal := by
  funext tally cid
  unfold unlistedStep
  rcases get?_cases hsame scenario cid with ⟨ha, hb⟩ | ⟨c, d, ha, hb, hsources⟩
  · rw [ha, hb]
  · rw [ha, hb]
    dsimp only
    rw [hsources]

private theorem isNone_get?_congr (cid : String) :
    (a.chunks.get? cid).isNone = (b.chunks.get? cid).isNone := by
  have hcid := congrArg Option.isNone (hsame cid)
  simpa only [Option.isNone_map] using hcid

/-- A result depends on the answers and the inventory, not on the tags or the
enforcement model. -/
theorem probeResult_congr (hlimit : a.annLimit = b.annLimit) (scenario : Scenario)
    (enforce enforce' : Enforcement) (probe : Probe) (pid : String) (principal : Principal)
    (answered : List String) :
    probeResult scenario a enforce probe pid principal (some answered) =
      probeResult scenario b enforce' probe pid principal (some answered) := by
  have htally : tallyOf scenario a enforce probe principal (some answered) =
      tallyOf scenario b enforce' probe principal (some answered) := by
    simp only [tallyOf, hlimit, unlistedStep_congr hsame,
      listedStep_congr hsame scenario enforce enforce']
  simp only [probeResult, htally, isNone_get?_congr hsame]

end Congruence

/-- With the same inventory and the same limit, a run gives the same results from the
same answers, whatever the tags, the ingestion times and the enforcement models. -/
theorem runProbes_congr {a b : Variant} (hsame : SameInventory a b)
    (hlimit : a.annLimit = b.annLimit) (ha : a.enforcement ∈ enforcementModels)
    (hb : b.enforcement ∈ enforcementModels) (scenario : Scenario) (ask : Retrieve) :
    runProbes scenario a (some ask) = runProbes scenario b (some ask) := by
  rcases (enforcementFor_isOk_iff scenario.rule _).mpr ha with ⟨enforce, henforce⟩
  rcases (enforcementFor_isOk_iff scenario.rule _).mpr hb with ⟨enforce', henforce'⟩
  have hask : askStep scenario a enforce (some ask) = askStep scenario b enforce' (some ask) := by
    funext probe results pid
    simp only [askStep, Option.map_some, hlimit,
      probeResult_congr hsame hlimit scenario enforce enforce']
  have hprobe : probeStep scenario a enforce (some ask) =
      probeStep scenario b enforce' (some ask) := by
    funext acc probe
    simp only [probeStep, hask]
  unfold runProbes
  rw [henforce, henforce']
  change scenario.probes.foldlM _ _ = scenario.probes.foldlM _ _
  rw [hprobe]

/-- The index of {lit}`payroll` with nothing stated in its tag, behind a filter that reads
absence as permission. -/
def payrollUntagged : Variant :=
  Variant.ofChunks "untagged"
    [{ id := "c-payroll", sourceDocumentIds := ["d-payroll"], entitlement := { state := .unknown },
       ingestedAt := some (.naive 0) }] "naive-tenant-exclusion" none

theorem runProbes_congr_payroll :
    runProbes payroll payrollIndex (some answersAll) =
      runProbes payroll payrollUntagged (some answersAll) := by
  have hsame : SameInventory payrollIndex payrollUntagged := by
    intro cid
    simp only [payrollIndex, Variant.ofChunks, Dict.ofValues, List.foldl_cons, List.foldl_nil,
      payrollUntagged, Dict.get?_set, Dict.get?_empty]
    split_ifs <;> rfl
  exact runProbes_congr hsame rfl (by decide) (by decide) payroll answersAll

end Tearline
