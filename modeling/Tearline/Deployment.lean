import Tearline.ExitStatus
import Tearline.Scan

/-!
# A correct deployment

A store that ranks what it holds, filters by tag and cuts off at the requested limit may do
the last two in either order.  Over points tagged as their sources, a scan finds nothing to
report about it.

Main results:

- Theorem {lit}`mem_answers_iff`: the limit a scan asks for cuts nothing off.
- Theorem {lit}`correct_deployment_scans_clean`: a correct deployment scans clean.
-/

namespace Tearline

variable {Vector : Type}

/-! ## Stores that rank, filter and cut off -/

/-- Keep what the tags grant the principal, then cut off at the limit. -/
def filterThenTruncate (rule : EntitlementRule) (ranking : List Chunk)
    (request : RetrievalRequest Vector) : List String :=
  ((ranking.filter fun chunk => rule.entitled chunk.entitlement request.principal).take
    request.limit.toNat).map Chunk.id

/-- Cut off at the limit, then keep what the tags grant the principal. -/
def truncateThenFilter (rule : EntitlementRule) (ranking : List Chunk)
    (request : RetrievalRequest Vector) : List String :=
  ((ranking.take request.limit.toNat).filter fun chunk =>
    rule.entitled chunk.entitlement request.principal).map Chunk.id

/-- Every request is answered from some ranking of all chunks, filtered by tag and cut off at
the limit in one order or the other. -/
def Backend.Correct (backend : Backend Vector) (rule : EntitlementRule) : Prop :=
  ∀ asked request, 0 < request.limit → ∃ ranking, ranking.Perm backend.chunks ∧
    (backend.retrieve asked request = filterThenTruncate rule ranking request ∨
      backend.retrieve asked request = truncateThenFilter rule ranking request)

/-- Without a declared limit a scan asks for at least as many ids as there are chunks. -/
theorem length_le_requestLimit (variant : Variant) :
    (variant.chunks.values.length : Int) ≤ requestLimit none variant ∧
      0 < requestLimit none variant := by
  unfold requestLimit
  dsimp only
  omega

/-- A correct store with enough room answers the ids of the chunks whose tags grant the
principal. -/
theorem mem_retrieve_iff {backend : Backend Vector} {rule : EntitlementRule}
    (hcorrect : backend.Correct rule) (asked : Nat) {request : RetrievalRequest Vector}
    (hpositive : 0 < request.limit) (hroom : (backend.chunks.length : Int) ≤ request.limit)
    (cid : String) :
    cid ∈ backend.retrieve asked request ↔ ∃ chunk ∈ backend.chunks,
      rule.entitled chunk.entitlement request.principal = true ∧ chunk.id = cid := by
  rcases hcorrect asked request hpositive with ⟨ranking, hperm, hanswer⟩
  have hlength : ranking.length ≤ request.limit.toNat := by
    rw [hperm.length_eq]
    omega
  have hfiltered : backend.retrieve asked request = (ranking.filter fun chunk =>
      rule.entitled chunk.entitlement request.principal).map Chunk.id := by
    rcases hanswer with hanswer | hanswer
    · rw [hanswer, filterThenTruncate,
        List.take_of_length_le (List.length_filter_le _ _ |>.trans hlength)]
    · rw [hanswer, truncateThenFilter, List.take_of_length_le hlength]
  rw [hfiltered, List.mem_map]
  simp only [List.mem_filter, hperm.mem_iff, and_assoc]

/-! ## Scanning it -/

/-- The question a scan puts to the store. -/
def Target.ask (deterministicVector : String → Nat → Vector) (target : Target Vector) :
    Retrieve := fun asked probe principal limit =>
  target.backend.retrieve asked
    { vector := deterministicVector probe.query dimensions
      principal := principal
      limit := requestLimit limit (target.variant target.backend.chunks) }

/-- What makes a deployment correct: distinct points, each tagged as its single source;
complete probes under declared principals; a known enforcement model, no declared limit and a
correct store. -/
structure CorrectDeployment (shared : Shared) (target : Target Vector) : Prop where
  distinct : (target.backend.chunks.map Chunk.id).Nodup
  tagged : ∀ chunk ∈ target.backend.chunks, ∃ source,
    locatedSources (shared.scenario target) chunk = [source] ∧
      same chunk.entitlement source.entitlement = true
  runnable : ∀ probe ∈ shared.probes, 2 ≤ probe.principals.length
  declared : ∀ probe ∈ shared.probes, ∀ pid ∈ probe.principals,
    ∃ principal, shared.principals.get? pid = some principal
  indexed : ∀ probe ∈ shared.probes, ∀ cid ∈ probe.matchIds,
    ∃ chunk ∈ target.backend.chunks, chunk.id = cid
  enforcement : target.enforcement ∈ enforcementModels
  unlimited : target.annLimit = none
  store : target.backend.Correct shared.rule

section Correct

variable {shared : Shared} {target : Target Vector}

/-- The index a scan of distinct points reads holds exactly these points. -/
theorem get?_variant_iff (hdistinct : (target.backend.chunks.map Chunk.id).Nodup) (cid : String)
    (chunk : Chunk) :
    (target.variant target.backend.chunks).chunks.get? cid = some chunk ↔
      chunk ∈ target.backend.chunks ∧ chunk.id = cid :=
  Dict.get?_ofValues_eq_some_iff hdistinct cid chunk

theorem values_variant (hdistinct : (target.backend.chunks.map Chunk.id).Nodup) :
    (target.variant target.backend.chunks).chunks.values = target.backend.chunks :=
  Dict.values_ofValues_of_nodup hdistinct

/-- A correct deployment answers every question with the chunks whose sources grant the
principal. -/
theorem mem_answers_iff (hcorrect : CorrectDeployment shared target)
    (deterministicVector : String → Nat → Vector) (q : Question) (cid : String) :
    cid ∈ q.answers (target.variant target.backend.chunks) (target.ask deterministicVector) ↔
      ∃ chunk ∈ target.backend.chunks, chunk.id = cid ∧
        SourcesGrant (shared.scenario target) chunk q.principal := by
  have hlimit : (target.variant target.backend.chunks).annLimit = none := hcorrect.unlimited
  have hroom := length_le_requestLimit (target.variant target.backend.chunks)
  rw [values_variant hcorrect.distinct] at hroom
  rw [Question.answers, hlimit, Target.ask, mem_retrieve_iff hcorrect.store _ hroom.2 hroom.1]
  apply exists_congr
  intro chunk
  apply and_congr_right
  intro hchunk
  rcases hcorrect.tagged chunk hchunk with ⟨source, hsource, hsame⟩
  rw [sourcesGrant_iff_of_same hsource hsame, and_comm]
  rfl

/-- A correct deployment is a clean pipeline. -/
theorem pipelineClean_of_correct (hcorrect : CorrectDeployment shared target)
    (deterministicVector : String → Nat → Vector) :
    PipelineClean (shared.scenario target) (target.variant target.backend.chunks)
      (target.ask deterministicVector) where
  tagged chunk hchunk := by
    rw [values_variant hcorrect.distinct] at hchunk
    rcases hcorrect.tagged chunk hchunk with ⟨source, hsource, hsame⟩
    exact ⟨source, hsource, (same_eq_true_iff _ _).mp hsame⟩
  covered probe hprobe := by
    refine ⟨hcorrect.runnable probe hprobe, fun cid hcid => ?_⟩
    rcases hcorrect.indexed probe hprobe cid hcid with ⟨chunk, hchunk⟩
    exact ⟨chunk, (get?_variant_iff hcorrect.distinct cid chunk).mpr hchunk⟩
  answered_granted q _ cid hanswered chunk hchunk := by
    rcases (mem_answers_iff hcorrect deterministicVector q cid).mp hanswered with
      ⟨other, hother, hid, hgrant⟩
    have hfound := (get?_variant_iff hcorrect.distinct cid other).mpr ⟨hother, hid⟩
    rw [hchunk] at hfound
    cases hfound
    exact hgrant
  granted_answered q _ cid _ chunk hchunk hgrant := by
    rcases (get?_variant_iff hcorrect.distinct cid chunk).mp hchunk with ⟨hmem, hid⟩
    exact (mem_answers_iff hcorrect deterministicVector q cid).mpr ⟨chunk, hmem, hid, hgrant⟩

/-- A correct deployment scans clean. -/
theorem correct_deployment_scans_clean (hcorrect : CorrectDeployment shared target)
    (deterministicVector : String → Nat → Vector) :
    ∃ report, scan deterministicVector shared target = .ok report ∧
      report.propagation = [] ∧
      (∀ r ∈ report.probes, r.overRetrieved = ∅ ∧ r.underRetrieved = ∅) ∧
      report.isPartial = false ∧ exitStatus report = 0 := by
  have haxes := axes_of_pipelineClean hcorrect.declared hcorrect.enforcement
    (pipelineClean_of_correct hcorrect deterministicVector)
  have hstatus := (exitStatus_verify_eq_zero_iff_axes _ _ _ target.backend.enforcementSite).mpr
    haxes
  rcases Loop.map_eq_ok.mp hstatus with ⟨report, hverify, hzero⟩
  rcases (exitStatus_eq_zero_iff report).mp hzero with ⟨hsilent, hverdicts, hcomplete⟩
  refine ⟨report, hverify, hsilent, fun r hr => ?_, hcomplete, hzero⟩
  rcases (verify_eq_ok_iff _ _ _ _ _).mp hverify with ⟨-, hrun, -⟩
  rcases (runProbes_eq_ok_iff _ _ _ _ _).mp hrun with ⟨enforce, -, -, hresults, -⟩
  have hverdict := hverdicts r hr
  rw [hresults] at hr
  rcases List.mem_map.mp hr with ⟨q, -, rfl⟩
  exact (verdict_ne_contradicted_iff _ _ _ _ _).mp hverdict

end Correct

/-- HR's payroll and a memo of engineering's, one probe of both. -/
def intranetShared : Shared where
  slug := "intranet"
  principals := Dict.ofValues Principal.id
    [{ id := "p-hr", label := "HR", roles := {"hr"} },
      { id := "p-eng", label := "Engineering", roles := {"eng"} }]
  probes :=
    [{ id := "q-payroll", query := "payroll", principals := ["p-hr", "p-eng"],
       matchIds := ["c-payroll"] }]
  rule :=
    { system := "wiki", tenant := .ignored, role := .intersects, direct := .ignored,
      combine := .tenantAndRole }

/-- The two points, tagged as their sources. -/
def intranetChunks : List Chunk :=
  [{ id := "c-payroll", sourceDocumentIds := ["d-payroll"],
     entitlement := { state := .stated, roles := {"hr"} } },
    { id := "c-memo", sourceDocumentIds := ["d-memo"],
      entitlement := { state := .stated, roles := {"eng"} } }]

/-- A store that ranks them as listed and cuts off before it filters. -/
def intranet : Target Unit where
  source := Dict.ofValues SourceDocument.id
    [{ id := "d-payroll", system := "wiki",
       entitlement := { state := .stated, roles := {"hr"} } },
      { id := "d-memo", system := "wiki",
        entitlement := { state := .stated, roles := {"eng"} } }]
  backend :=
    { enforcementSite := "application"
      chunks := intranetChunks
      retrieve := fun _ => truncateThenFilter intranetShared.rule intranetChunks }
  enforcement := "rule"
  annLimit := none

theorem intranet_correct : CorrectDeployment intranetShared intranet where
  distinct := by decide
  tagged chunk hchunk := by
    have hlocated : ∀ chunk ∈ intranet.backend.chunks,
        ((locatedSources (intranetShared.scenario intranet) chunk).map fun source =>
          same chunk.entitlement source.entitlement) = [true] := by decide +kernel
    rcases List.map_eq_singleton_iff.mp (hlocated chunk hchunk) with ⟨source, hsource, hsame⟩
    exact ⟨source, hsource, hsame⟩
  runnable := by decide
  declared := by
    have hdeclared : ∀ probe ∈ intranetShared.probes, ∀ pid ∈ probe.principals,
        (intranetShared.principals.get? pid).isSome = true := by decide +kernel
    exact fun probe hprobe pid hpid =>
      Option.isSome_iff_exists.mp (hdeclared probe hprobe pid hpid)
  indexed := by decide
  enforcement := by decide
  unlimited := rfl
  store := fun _ _ _ => ⟨intranetChunks, List.Perm.refl _, Or.inr rfl⟩

theorem correct_deployment_scans_clean_intranet :
    ∃ report, scan (fun _ _ => ()) intranetShared intranet = .ok report ∧
      report.propagation = [] ∧
      (∀ r ∈ report.probes, r.overRetrieved = ∅ ∧ r.underRetrieved = ∅) ∧
      report.isPartial = false ∧ exitStatus report = 0 :=
  correct_deployment_scans_clean intranet_correct fun _ _ => ()

end Tearline
