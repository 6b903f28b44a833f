import Tearline.Deployment
import Tearline.Disclosure
import Tearline.Sources
import Tearline.TrustedBound

/-!
# Stores that answer by tag

A store that enforces the stored tags answers nothing that they do not grant.  It may rank,
truncate and change its answers as it likes, and its tags may be wrong.  What it discloses then
is what is wrong with its tags, which is for the propagation axis to report.

Main results:

- Theorem {lit}`discloses_of_answered`: what such a store discloses is a chunk whose tag
  discloses.
- Theorem {lit}`tagStore_leaks_reported`: every disclosure is reported on the propagation axis.
- Theorem {lit}`open_of_answersEveryone`: what a store discloses that enforces nothing.
-/

namespace Tearline

variable {Vector : Type}

/-- Every id the store answers to some principals is that of a chunk whose tag grants them. -/
def Backend.AnswersByTag (backend : Backend Vector) (rule : EntitlementRule)
    (principals : List Principal) : Prop :=
  ∀ asked request, request.principal ∈ principals → ∀ cid ∈ backend.retrieve asked request,
    ∃ chunk ∈ backend.chunks, chunk.id = cid ∧
      rule.entitled chunk.entitlement request.principal = true

/-- The rule asks for nothing but membership in a tenant, which is all that a store can enforce
which knows no more of a reader. -/
structure TenantOnly (rule : EntitlementRule) : Prop where
  tenant : rule.tenant = .member
  role : rule.role = .ignored
  combine : rule.combine = .tenantAndRole ∨ rule.combine = .tenantAndRoleOrDirect

/-- Such a rule grants what is stated to the members of its tenants. -/
theorem TenantOnly.entitled_iff {rule : EntitlementRule} (hrule : TenantOnly rule)
    (ent : Entitlement) (principal : Principal) :
    rule.entitled ent principal = true ↔
      ent.state = .stated ∧ ∃ tenant ∈ ent.tenants, principal.tenant = some tenant := by
  have hrole : roleHolds rule.role ent principal = true := by simp [roleHolds, hrule.role]
  rw [← tenantHolds_member_iff, EntitlementRule.entitled, hrule.tenant, hrole]
  rcases hrule.combine with hcombine | hcombine <;> simp [hcombine, Combinator.combine]

/-- Under such a rule the safe bound can be trusted. -/
theorem TenantOnly.boundTrusted {rule : EntitlementRule} (hrule : TenantOnly rule)
    (entitlements : List Entitlement) : BoundTrusted rule entitlements where
  tenant := Or.inl hrule.tenant
  role := Or.inl hrule.role

/-- Ranking, filtering by tag and cutting off in either order is answering by tag. -/
theorem answersByTag_of_filtered {backend : Backend Vector} {rule : EntitlementRule}
    (hfiltered : ∀ asked request, ∃ ranking, ranking ⊆ backend.chunks ∧
      (backend.retrieve asked request = filterThenTruncate rule ranking request ∨
        backend.retrieve asked request = truncateThenFilter rule ranking request))
    (principals : List Principal) : backend.AnswersByTag rule principals := by
  intro asked request _ cid hcid
  rcases hfiltered asked request with ⟨ranking, hsub, hanswer | hanswer⟩
  · rw [hanswer, filterThenTruncate, List.mem_map] at hcid
    rcases hcid with ⟨chunk, hchunk, rfl⟩
    rcases List.mem_filter.mp (List.mem_of_mem_take hchunk) with ⟨hranked, hgrants⟩
    exact ⟨chunk, hsub hranked, rfl, hgrants⟩
  · rw [hanswer, truncateThenFilter, List.mem_map] at hcid
    rcases hcid with ⟨chunk, hchunk, rfl⟩
    rcases List.mem_filter.mp hchunk with ⟨hranked, hgrants⟩
    exact ⟨chunk, hsub (List.mem_of_mem_take hranked), rfl, hgrants⟩

/-- A chunk whose tag discloses is not passed over. -/
theorem exists_finding_of_discloses {scenario : Scenario} {variant : Variant}
    {findings : List PropagationFinding} {untraceable : Nat} {chunk : Chunk}
    (hcheck : checkPropagation scenario variant = .ok (findings, untraceable))
    (hchunk : chunk ∈ variant.chunks.values) (hdiscloses : Discloses scenario chunk) :
    ∃ f ∈ findings, f.chunkId = chunk.id := by
  rw [exists_finding_iff_not_same hcheck hchunk]
  intro hsilent
  rcases hsilent with ⟨source, hsources, hsame⟩
  rcases hdiscloses with ⟨p, -, hgrants, other, hother, hdenies⟩
  rw [hsources, List.mem_singleton] at hother
  rw [entitled_eq_of_same scenario.rule p hsame, ← hother, hdenies] at hgrants
  cases hgrants

section Scans

variable {deterministicVector : String → Nat → Vector} {shared : Shared}
  {target : Target Vector} {report : VerificationReport}

/-- What a store that answers by tag is seen to disclose is one of its chunks, whose tag
discloses. -/
theorem discloses_of_answered
    (hscan : scan deterministicVector shared target = .ok report)
    (hdistinct : (target.backend.chunks.map Chunk.id).Nodup)
    (hstore : target.backend.AnswersByTag shared.rule shared.principals.values)
    {r : ProbeResult} (hr : r ∈ report.probes) {cid : String} (hcid : cid ∈ r.overRetrieved) :
    ∃ chunk ∈ target.backend.chunks, chunk.id = cid ∧
      Discloses (shared.scenario target) chunk := by
  rcases (verify_eq_ok_iff _ _ _ _ _).mp hscan with ⟨-, hrun, -⟩
  rcases (runProbes_eq_ok_iff _ _ _ _ _).mp hrun with ⟨enforce, -, -, hresults, -⟩
  rw [hresults] at hr
  rcases List.mem_map.mp hr with ⟨q, hq, rfl⟩
  have hprincipal : q.principal ∈ shared.principals.values :=
    Dict.mem_values_of_get? (question_of_mem hq).2.2
  rcases (mem_overRetrieved_iff _ _ _ _ _ _).mp hcid with ⟨hserved, hdenied⟩
  rcases (judge_eq_denied_iff _ _ _ _).mp hdenied with ⟨chunk, hchunk, hdenies⟩
  rcases hstore _ _ hprincipal cid hserved with ⟨tagged, htagged, hid, hgrants⟩
  have hfound := (get?_variant_iff hdistinct cid tagged).mpr ⟨htagged, hid⟩
  cases hchunk.symm.trans hfound
  exact ⟨chunk, htagged, hid, q.principal, hprincipal, hgrants, hdenies⟩

/-- Every id that a store answering by tag is seen to disclose has a finding of its own tag on
the propagation axis, and is contradicted there unless it has several sources over which the
safe bound cannot be trusted. -/
structure LeakReported (scenario : Scenario) (findings : List PropagationFinding)
    (chunk : Chunk) : Prop where
  reported : ∃ f ∈ findings, f.chunkId = chunk.id ∧ f.observed = chunk.entitlement
  contradicted :
    (2 ≤ (locatedSources scenario chunk).length →
      BoundTrusted scenario.rule (sourceEntitlements scenario chunk)) →
    ∃ f ∈ findings, f.chunkId = chunk.id ∧ f.verdict = .contradicted

/-- What a scan finds such a store to disclose is reported. -/
theorem leak_of_scan
    (hscan : scan deterministicVector shared target = .ok report)
    (hdistinct : (target.backend.chunks.map Chunk.id).Nodup)
    (hstore : target.backend.AnswersByTag shared.rule shared.principals.values)
    {r : ProbeResult} (hr : r ∈ report.probes) {cid : String} (hcid : cid ∈ r.overRetrieved) :
    ∃ chunk ∈ target.backend.chunks, chunk.id = cid ∧
      LeakReported (shared.scenario target) report.propagation chunk := by
  rcases (verify_eq_ok_iff _ _ _ _ _).mp hscan with ⟨hcheck, -⟩
  rcases discloses_of_answered hscan hdistinct hstore hr hcid with
    ⟨chunk, hchunk, hid, hdiscloses⟩
  have hmem : chunk ∈ (target.variant target.backend.chunks).chunks.values := by
    rw [values_variant hdistinct]
    exact hchunk
  refine ⟨chunk, hchunk, hid, ?_, fun htrusted => ?_⟩
  · rcases exists_finding_of_discloses hcheck hmem hdiscloses with ⟨f, hf, hfid⟩
    have hobserved := (exists_finding_iff hcheck hmem fun _ => True).mp ⟨f, hf, hfid, trivial⟩
    rcases hobserved with ⟨g, hg, -⟩
    exact (exists_finding_iff hcheck hmem fun f => f.observed = chunk.entitlement).mpr
      ⟨g, hg, (checkChunk_observed hg).2⟩
  · exact contradicted_of_discloses hcheck hmem hdiscloses fun hseveral =>
      beyondShared_of_discloses hdiscloses fun p _ _ => (htrusted hseveral).not_letIn p

/-- However a store that answers by tag ranks, truncates or varies its answers, what it is seen
to disclose is reported on the propagation axis, so that nothing is disclosed where that axis is
silent. -/
theorem tagStore_leaks_reported
    (hscan : scan deterministicVector shared target = .ok report)
    (hdistinct : (target.backend.chunks.map Chunk.id).Nodup)
    (hstore : target.backend.AnswersByTag shared.rule shared.principals.values) :
    (∀ r ∈ report.probes, ∀ cid ∈ r.overRetrieved, ∃ chunk ∈ target.backend.chunks,
        chunk.id = cid ∧ LeakReported (shared.scenario target) report.propagation chunk) ∧
      (report.propagation = [] → ∀ r ∈ report.probes, r.overRetrieved = ∅) := by
  constructor
  · intro r hr cid hcid
    exact leak_of_scan hscan hdistinct hstore hr hcid
  · intro hsilent r hr
    rw [Finset.eq_empty_iff_forall_notMem]
    intro cid hcid
    rcases leak_of_scan hscan hdistinct hstore hr hcid with ⟨chunk, -, -, hleak⟩
    rcases hleak.reported with ⟨f, hf, -⟩
    rw [hsilent] at hf
    cases hf

end Scans

/-- The payroll, tagged for engineering. -/
def misfiledPayroll : List Chunk :=
  [{ id := "c-payroll", sourceDocumentIds := ["d-payroll"],
     entitlement := { state := .stated, roles := {"eng"} } }]

/-- An intranet that holds it and answers by tag. -/
def misfiledIntranet : Target Unit :=
  { intranet with
    backend :=
      { enforcementSite := "application"
        chunks := misfiledPayroll
        retrieve := fun _ => filterThenTruncate intranetShared.rule misfiledPayroll } }

/-- Its report: engineering reads the payroll, HR does not, and the tag is contradicted. -/
def misfiledReport : VerificationReport where
  chunksExamined := 1
  chunksUntraceable := 0
  propagation :=
    [{ chunkId := "c-payroll", verdict := .contradicted, cause := .undetermined,
       observed := { state := .stated, roles := {"eng"} },
       expected := some { state := .stated, roles := {"hr"} } }]
  probes :=
    [{ probeId := "q-payroll", principalId := "p-hr", returned := [],
       overRetrieved := ∅, underRetrieved := {"c-payroll"}, verdict := .contradicted,
       outcome := .underRetrieval },
      { probeId := "q-payroll", principalId := "p-eng", returned := ["c-payroll"],
        overRetrieved := {"c-payroll"}, underRetrieved := ∅, verdict := .contradicted,
        outcome := .overRetrieval }]
  probesSkipped := []
  isPartial := false
  enforcementSite := "application"

theorem tagStore_leaks_reported_misfiled :
    (∀ r ∈ misfiledReport.probes, ∀ cid ∈ r.overRetrieved,
      ∃ chunk ∈ misfiledIntranet.backend.chunks, chunk.id = cid ∧
        LeakReported (intranetShared.scenario misfiledIntranet) misfiledReport.propagation chunk) ∧
      (misfiledReport.propagation = [] → ∀ r ∈ misfiledReport.probes, r.overRetrieved = ∅) :=
  tagStore_leaks_reported
    (by decide +kernel :
      scan (fun _ _ => ()) intranetShared misfiledIntranet = .ok misfiledReport)
    (by decide)
    (answersByTag_of_filtered
      (fun _ _ => ⟨misfiledPayroll, List.Subset.refl _, Or.inl rfl⟩) _)

/-! ## Stores that answer everything -/

/-- With room for all its chunks the store answers all of them, whoever asks. -/
def Backend.AnswersEveryone (backend : Backend Vector) : Prop :=
  ∀ asked request, (backend.chunks.length : Int) ≤ request.limit → ∀ cid,
    cid ∈ backend.retrieve asked request ↔ ∃ chunk ∈ backend.chunks, chunk.id = cid

/-- What a result says of a principal who is answered everything: nothing was withheld, and
whatever a source denies was disclosed. -/
structure Open (scenario : Scenario) (chunks : List Chunk) (q : Question) (r : ProbeResult) :
    Prop where
  probe : r.probeId = q.probe.id
  principal : r.principalId = q.pid
  withheld : r.underRetrieved = ∅
  disclosed : ∀ cid, cid ∈ r.overRetrieved ↔
    ∃ chunk ∈ chunks, chunk.id = cid ∧ SourceDenies scenario chunk q.principal

/-- A scan of a store that answers everything finds every question answered so. -/
theorem open_of_answersEveryone {deterministicVector : String → Nat → Vector} {shared : Shared}
    {target : Target Vector} {report : VerificationReport}
    (hscan : scan deterministicVector shared target = .ok report)
    (hdistinct : (target.backend.chunks.map Chunk.id).Nodup)
    (hopen : target.backend.AnswersEveryone) (hlimit : target.annLimit = none) :
    List.Forall₂ (Open (shared.scenario target) target.backend.chunks)
      (questions (shared.scenario target)) report.probes := by
  rcases (verify_eq_ok_iff _ _ _ _ _).mp hscan with ⟨-, hrun, -⟩
  refine forall₂_results hrun fun enforce _ q _ => ?_
  have hserved : ∀ cid, cid ∈ (comparison (shared.scenario target)
      (target.variant target.backend.chunks) enforce
      (some (target.ask deterministicVector)) q).served ↔
        ∃ chunk ∈ target.backend.chunks, chunk.id = cid := by
    intro cid
    have hroom := (length_le_requestLimit (target.variant target.backend.chunks)).1
    rw [values_variant hdistinct] at hroom
    have hnone : (target.variant target.backend.chunks).annLimit = none := hlimit
    change cid ∈ target.ask deterministicVector q.number q.probe q.principal _ ↔ _
    rw [hnone]
    exact hopen _ _ hroom cid
  refine ⟨rfl, rfl, ?_, fun cid => ?_⟩
  · refine (underRetrieved_eq_empty_iff _ _ _ _ _).mpr fun cid _ hgranted => ?_
    rcases (judge_eq_granted_iff _ _ _ _).mp hgranted with ⟨chunk, hchunk, -⟩
    exact (hserved cid).mpr ⟨chunk, (get?_variant_iff hdistinct cid chunk).mp hchunk⟩
  · refine (mem_overRetrieved_iff _ _ _ _ _ cid).trans ?_
    constructor
    · intro hdisclosed
      rcases (judge_eq_denied_iff _ _ _ _).mp hdisclosed.2 with ⟨chunk, hchunk, hdenies⟩
      rcases (get?_variant_iff hdistinct cid chunk).mp hchunk with ⟨hmem, hid⟩
      exact ⟨chunk, hmem, hid, hdenies⟩
    · intro hdenied
      rcases hdenied with ⟨chunk, hmem, hid, hdenies⟩
      exact ⟨(hserved cid).mpr ⟨chunk, hmem, hid⟩, (judge_eq_denied_iff _ _ _ _).mpr
        ⟨chunk, (get?_variant_iff hdistinct cid chunk).mpr ⟨hmem, hid⟩, hdenies⟩⟩

/-! ## A mislabelled plan -/

/-- A plan of one tenant, labelled with another. -/
def planChunk : Chunk where
  id := "c-plan"
  sourceDocumentIds := ["d-plan"]
  entitlement := { state := .stated, tenants := {"acme"} }

/-- The plan as its source holds it. -/
def planSource : Dict String SourceDocument :=
  Dict.ofValues SourceDocument.id
    [{ id := "d-plan", system := "wiki",
       entitlement := { state := .stated, tenants := {"globex"} } }]

/-- A reader of either tenant and a probe for the plan. -/
def tenantsShared : Shared where
  slug := "mislabelled"
  principals := Dict.ofValues Principal.id
    [{ id := "p-acme", label := "Acme", tenant := some "acme" },
      { id := "p-globex", label := "Globex", tenant := some "globex" }]
  probes :=
    [{ id := "q-plan", query := "plan", principals := ["p-acme", "p-globex"],
       matchIds := ["c-plan"] }]
  rule :=
    { system := "wiki", tenant := .member, role := .ignored, direct := .ignored,
      combine := .tenantAndRole }

/-- What the propagation axis finds. -/
def planFindings : List PropagationFinding :=
  [{ chunkId := "c-plan", verdict := .contradicted, cause := .undetermined,
     observed := { state := .stated, tenants := {"acme"} },
     expected := some { state := .stated, tenants := {"globex"} } }]

/-- What the reader of the wrong tenant gets. -/
def planResult : ProbeResult where
  probeId := "q-plan"
  principalId := "p-acme"
  returned := ["c-plan"]
  overRetrieved := {"c-plan"}
  underRetrieved := ∅
  verdict := .contradicted
  outcome := .overRetrieval

end Tearline
