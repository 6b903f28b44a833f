import Tearline.Verify.Report

/-!
# Scanning a live system

A scan reads the inventory from a backend, the documents from a source system and the
probes, principals and rule from the target directory, and verifies the one against the
other.  What the backend answers and the vector it is asked with are not computed here.

Main results:

- Theorem {lit}`findingAlone_iff`: when a chunk would be reported on its own.
- Theorem {lit}`everyPointExamined_iff`: when a scan examines every stored point.
-/

namespace Tearline

/-! ## The backend seam -/

/-- What a probe asks a backend for. -/
structure RetrievalRequest (Vector : Type) where
  vector : Vector
  principal : Principal
  limit : Int

/-- What an adapter provides.  An answer may also depend on how many requests the store
has answered before. -/
structure Backend (Vector : Type) where
  enforcementSite : String
  chunks : List Chunk
  retrieve : Nat → RetrievalRequest Vector → List String

/-- What a scan points at: the source system's documents, the backend, and what the
target description states. -/
structure Target (Vector : Type) where
  source : Dict String SourceDocument
  backend : Backend Vector
  enforcement : String
  annLimit : Option Int

/-- What the target directory's shared files state. -/
structure Shared where
  slug : String
  principals : Dict String Principal
  probes : List Probe
  rule : EntitlementRule

/-- The width of a probe's vector. -/
def dimensions : Nat := 16

/-- `limit or max(len(variant.chunks), 1)` -/
def requestLimit (limit : Option Int) (variant : Variant) : Int :=
  match limit with
  | some k => if k ≠ 0 then k else max variant.chunks.values.length 1
  | none => max variant.chunks.values.length 1

/-- The scenario a scan reads. -/
def Shared.scenario {Vector : Type} (shared : Shared) (target : Target Vector) : Scenario where
  slug := shared.slug
  documents := target.source
  principals := shared.principals
  probes := shared.probes
  rule := shared.rule

/-- The variant a scan reads: the inventory under its chunk ids. -/
def Target.variant {Vector : Type} (target : Target Vector) (chunks : List Chunk) : Variant :=
  Variant.ofChunks "live" chunks target.enforcement target.annLimit

/-- Read both systems and verify the index against the source. -/
def scan {Vector : Type} (deterministicVector : String → Nat → Vector) (shared : Shared)
    (target : Target Vector) : Except PyError VerificationReport :=
  let variant := target.variant target.backend.chunks
  let retrieve : Retrieve := fun asked probe principal limit =>
    target.backend.retrieve asked
      { vector := deterministicVector probe.query dimensions
        principal := principal
        limit := requestLimit limit variant }
  verify (shared.scenario target) variant (some retrieve) target.backend.enforcementSite

/-! ## Examining every stored point -/

variable {Vector : Type}

/-- The chunk would be given a finding if it were the only one in the index. -/
def FindingAlone (shared : Shared) (target : Target Vector) (chunk : Chunk) : Prop :=
  ∃ f findings untraceable,
    checkPropagation (shared.scenario target) (target.variant [chunk]) =
      .ok (f :: findings, untraceable)

/-- Every point the backend stores is counted, and every one that would be reported on its
own is reported with its own tag. -/
structure EveryPointExamined (shared : Shared) (target : Target Vector)
    (report : VerificationReport) : Prop where
  examined : report.chunksExamined = target.backend.chunks.length
  reported : ∀ chunk ∈ target.backend.chunks, FindingAlone shared target chunk →
    ∃ f ∈ report.propagation, f.chunkId = chunk.id ∧ f.observed = chunk.entitlement

/-- A chunk is reported on its own exactly when the check gives it a finding. -/
theorem findingAlone_iff (shared : Shared) (target : Target Vector) (chunk : Chunk) :
    FindingAlone shared target chunk ↔
      ∃ f, checkChunk (shared.scenario target) chunk = .ok (some f) := by
  have hvalues : (target.variant [chunk]).chunks.values = [chunk] :=
    Dict.values_ofValues_of_nodup (List.nodup_singleton _)
  constructor
  · intro hcompletes
    rcases hcompletes with ⟨f, findings, untraceable, hcheck⟩
    rcases (mem_findings_iff hcheck f).mp List.mem_cons_self with ⟨other, hother, hf⟩
    rw [hvalues, List.mem_singleton] at hother
    exact ⟨f, hother ▸ hf⟩
  · intro hcompletes
    rcases hcompletes with ⟨f, hf⟩
    refine ⟨f, [], _, (checkPropagation_eq_ok_iff _ _ _ _).mpr ⟨[some f], ?_, rfl, rfl⟩⟩
    rw [hvalues]
    exact List.Forall₂.cons hf List.Forall₂.nil

/-- A scan examines every stored point exactly when no two of them have the same id. -/
theorem everyPointExamined_iff {deterministicVector : String → Nat → Vector} {shared : Shared}
    {target : Target Vector} {report : VerificationReport}
    (hscan : scan deterministicVector shared target = .ok report) :
    EveryPointExamined shared target report ↔
      (target.backend.chunks.map Chunk.id).Nodup := by
  rcases (verify_eq_ok_iff _ _ _ _ _).mp hscan with ⟨hcheck, -, hexamined, -⟩
  constructor
  · intro hall
    exact (Dict.length_values_ofValues_eq_iff Chunk.id target.backend.chunks).mp
      (hexamined.symm.trans hall.examined)
  · intro hnodup
    have hvalues : (target.variant target.backend.chunks).chunks.values = target.backend.chunks :=
      Dict.values_ofValues_of_nodup hnodup
    refine ⟨by rw [hexamined, hvalues], fun chunk hchunk halone => ?_⟩
    rcases (findingAlone_iff shared target chunk).mp halone with ⟨f, hf⟩
    rw [← hvalues] at hchunk
    exact (exists_finding_iff hcheck hchunk fun f => f.observed = chunk.entitlement).mpr
      ⟨f, hf, (checkChunk_observed hf).2⟩

/-- Two roles' readers and one page of HR's. -/
def reingestedShared : Shared where
  slug := "reingested"
  principals := Dict.ofValues Principal.id
    [{ id := "p-hr", label := "HR", roles := {"hr"} },
      { id := "p-eng", label := "Engineering", roles := {"eng"} }]
  probes := []
  rule :=
    { system := "filesystem", tenant := .ignored, role := .intersects, direct := .ignored,
      combine := .tenantAndRole }

/-- A stale point of HR's page, tagged for engineering. -/
def stalePoint : Chunk where
  id := "c-page"
  sourceDocumentIds := ["d-page"]
  entitlement := { state := .stated, roles := {"eng"} }

/-- The point of the same page after it was ingested again. -/
def freshPoint : Chunk where
  id := "c-page"
  sourceDocumentIds := ["d-page"]
  entitlement := { state := .stated, roles := {"hr"} }

/-- A store that kept both points under one chunk id. -/
def reingested : Target Unit where
  source := Dict.ofValues SourceDocument.id
    [{ id := "d-page", system := "filesystem",
       entitlement := { state := .stated, roles := {"hr"} } }]
  backend :=
    { enforcementSite := "application"
      chunks := [stalePoint, freshPoint]
      retrieve := fun _ _ => [] }
  enforcement := "rule"
  annLimit := none

/-- Its report: one chunk examined and nothing found. -/
def reingestedReport : VerificationReport where
  chunksExamined := 1
  chunksUntraceable := 0
  propagation := []
  probes := []
  probesSkipped := []
  isPartial := false
  enforcementSite := "application"

theorem everyPointExamined_iff_reingested :
    EveryPointExamined reingestedShared reingested reingestedReport ↔
      (reingested.backend.chunks.map Chunk.id).Nodup :=
  everyPointExamined_iff
    (by decide +kernel :
      scan (fun _ _ => ()) reingestedShared reingested = .ok reingestedReport)

/-- The stale point is neither counted nor reported, though it would be on its own. -/
theorem stalePoint_unexamined :
    scan (fun _ _ => ()) reingestedShared reingested = .ok reingestedReport ∧
      stalePoint ∈ reingested.backend.chunks ∧
      (∃ f, checkPropagation (reingestedShared.scenario reingested)
          (reingested.variant [stalePoint]) = .ok ([f], 0)) ∧
      reingestedReport.chunksExamined ≠ reingested.backend.chunks.length ∧
      reingestedReport.propagation = [] ∧
      ¬ EveryPointExamined reingestedShared reingested reingestedReport := by
  have hcounted : reingestedReport.chunksExamined ≠ reingested.backend.chunks.length := by
    decide
  refine ⟨by decide +kernel, List.mem_cons_self, ⟨?_, ?_⟩, hcounted, rfl,
    fun hall => hcounted hall.examined⟩
  · exact { chunkId := "c-page", verdict := .contradicted, cause := .undetermined,
            observed := { state := .stated, roles := {"eng"} },
            expected := some { state := .stated, roles := {"hr"} } }
  · decide +kernel

end Tearline
