import Mathlib.Data.List.Perm.Basic
import Tearline.Verify.Report

/-!
# The order in which things are listed

Documents, principals and chunks are looked up and walked through in the order in which a file or
a store lists them, and probes in the order of theirs.  A report lists its findings and results in
that order too, and depends on it in no other way.

Main results:

- Theorem {lit}`checkPropagation_reordered`: the findings are the same in another order.
- Theorem {lit}`runProbes_reordered`: so are the results and the skipped probes.
- Theorem {lit}`verify_reordered`: a verification and one of the same records in another order
  report the same, and exit alike.
-/

namespace Tearline

/-! ## Records in another order -/

/-- The scenarios state the same in some order. -/
structure Scenario.Reordered (a b : Scenario) : Prop where
  documents : ∀ id, a.documents.get? id = b.documents.get? id
  principals : ∀ id, a.principals.get? id = b.principals.get? id
  probes : a.probes.Perm b.probes
  rule : a.rule = b.rule

/-- The indexes hold the same in some order. -/
structure Variant.Reordered (a b : Variant) : Prop where
  chunks : ∀ id, a.chunks.get? id = b.chunks.get? id
  enforcement : a.enforcement = b.enforcement
  annLimit : a.annLimit = b.annLimit

/-- There is no live store, or it answers a question alike whenever it is asked. -/
def Steady (retrieve : Option Retrieve) : Prop :=
  ∀ ask, retrieve = some ask → ∀ n m, ask n = ask m

/-- The reports list the same in some order, and agree in what is no list. -/
structure VerificationReport.Reordered (a b : VerificationReport) : Prop where
  chunksExamined : a.chunksExamined = b.chunksExamined
  chunksUntraceable : a.chunksUntraceable = b.chunksUntraceable
  propagation : a.propagation.Perm b.propagation
  probes : a.probes.Perm b.probes
  probesSkipped : a.probesSkipped.Perm b.probesSkipped
  isPartial : a.isPartial = b.isPartial
  enforcementSite : a.enforcementSite = b.enforcementSite

theorem Scenario.Reordered.symm {a b : Scenario} (h : a.Reordered b) : b.Reordered a where
  documents id := (h.documents id).symm
  principals id := (h.principals id).symm
  probes := h.probes.symm
  rule := h.rule.symm

theorem Variant.Reordered.symm {a b : Variant} (h : a.Reordered b) : b.Reordered a where
  chunks id := (h.chunks id).symm
  enforcement := h.enforcement.symm
  annLimit := h.annLimit.symm

/-- A scenario whose documents and principals have distinct ids may list them in any order. -/
theorem Scenario.reordered_ofLists {documents documents' : List SourceDocument}
    {principals principals' : List Principal} {probes probes' : List Probe}
    (hdocuments : documents.Perm documents')
    (hdocumentIds : (documents.map SourceDocument.id).Nodup)
    (hprincipals : principals.Perm principals')
    (hprincipalIds : (principals.map Principal.id).Nodup) (hprobes : probes.Perm probes')
    (slug slug' : String) (rule : EntitlementRule) :
    (Scenario.ofLists slug documents principals probes rule).Reordered
      (Scenario.ofLists slug' documents' principals' probes' rule) where
  documents := Dict.get?_ofValues_perm hdocumentIds hdocuments
  principals := Dict.get?_ofValues_perm hprincipalIds hprincipals
  probes := hprobes
  rule := rfl

/-- An index of chunks with distinct ids may list them in any order. -/
theorem Variant.reordered_ofChunks {chunks chunks' : List Chunk} (hperm : chunks.Perm chunks')
    (hdistinct : (chunks.map Chunk.id).Nodup) (name name' enforcement : String)
    (annLimit : Option Int) :
    (Variant.ofChunks name chunks enforcement annLimit).Reordered
      (Variant.ofChunks name' chunks' enforcement annLimit) where
  chunks := Dict.get?_ofValues_perm hdistinct hperm
  enforcement := rfl
  annLimit := rfl

/-! ## The propagation axis -/

section Propagation

variable {a b : Scenario}

theorem locatedSources_reordered_eq (h : a.Reordered b) (chunk : Chunk) :
    locatedSources a chunk = locatedSources b chunk := by
  rw [locatedSources, locatedSources, funext h.documents]

theorem withinBound_reordered (h : a.Reordered b) (tag bound : Entitlement) :
    withinBound a tag bound a.principals.values = withinBound b tag bound b.principals.values := by
  unfold withinBound
  rw [h.rule]
  exact (Dict.values_perm h.principals).all_eq

/-- The check of a chunk does not depend on the order of the documents and principals. -/
theorem checkChunk_reordered_eq (h : a.Reordered b) (chunk : Chunk) :
    checkChunk a chunk = checkChunk b chunk := by
  unfold checkChunk
  simp only [locatedSources_reordered_eq h, withinBound_reordered h]

/-- The findings are the same in another order. -/
theorem checkPropagation_reordered (h : a.Reordered b) {v w : Variant} (hindex : v.Reordered w)
    {findings : List PropagationFinding} {untraceable : Nat}
    (hcheck : checkPropagation a v = .ok (findings, untraceable)) :
    ∃ findings', checkPropagation b w = .ok (findings', untraceable) ∧
      findings.Perm findings' := by
  rcases (checkPropagation_eq_ok_iff _ _ _ _).mp hcheck with ⟨outcomes, houtcomes, rfl, rfl⟩
  have hvalues := Dict.values_perm hindex.chunks
  simp only [checkChunk_reordered_eq h] at houtcomes
  rcases List.perm_comp_forall₂ hvalues.symm houtcomes with ⟨outcomes', houtcomes', hperm⟩
  refine ⟨outcomes'.reduceOption, (checkPropagation_eq_ok_iff _ _ _ _).mpr
    ⟨outcomes', houtcomes', rfl, ?_⟩, hperm.symm.filterMap id⟩
  simp only [locatedSources_reordered_eq h]
  exact hvalues.countP_eq _

end Propagation

/-! ## The probes -/

section Probes

variable {a b : Scenario} {v w : Variant}

/-- A result does not depend on the order of the documents and chunks. -/
theorem probeResult_reordered (h : a.Reordered b) (hindex : v.Reordered w)
    (enforce : Enforcement) (probe : Probe) (pid : String) (principal : Principal)
    (live : Option (List String)) :
    probeResult a v enforce probe pid principal live =
      probeResult b w enforce probe pid principal live := by
  have hlisted : listedStep a v enforce = listedStep b w enforce := by
    funext candidateIds principal live tally cid
    simp only [listedStep, hindex.chunks, locatedSources_reordered_eq h, h.rule]
  have hunlisted : unlistedStep a v = unlistedStep b w := by
    funext probe principal tally cid
    simp only [unlistedStep, hindex.chunks, locatedSources_reordered_eq h, h.rule]
  have htally : tallyOf a v enforce probe principal live =
      tallyOf b w enforce probe principal live := by
    cases live with
    | none => simp only [tallyOf, hlisted, hindex.annLimit]
    | some answered => simp only [tallyOf, hlisted, hunlisted, hindex.annLimit]
  simp only [probeResult, htally, hindex.chunks]

theorem askedOf_reordered (h : a.Reordered b) (probe : Probe) :
    askedOf a probe = askedOf b probe := by
  rw [askedOf, askedOf, funext h.principals]

/-- The result of a question when there is no live store or a steady one. -/
def steadyResult (scenario : Scenario) (variant : Variant) (enforce : Enforcement)
    (retrieve : Option Retrieve) (asked : Probe × String × Principal) : ProbeResult :=
  answerTo scenario variant enforce retrieve ⟨0, asked.1, asked.2.1, asked.2.2⟩

/-- The results of a steady store, without the numbers of the questions. -/
theorem map_answerTo_steady {retrieve : Option Retrieve} (hsteady : Steady retrieve)
    (enforce : Enforcement) :
    (questions a).map (answerTo a v enforce retrieve) =
      ((a.probes.filter Probe.runnable).flatMap (askedOf a)).map
        (steadyResult a v enforce retrieve) := by
  apply List.ext_getElem
  · simp [questions]
  · intro n hn hn'
    simp only [questions, List.getElem_map, List.getElem_mapIdx, steadyResult, answerTo,
      Question.live]
    cases retrieve with
    | none => rfl
    | some ask => rw [Option.map_some, Option.map_some, hsteady ask rfl n 0]

theorem principalsDeclared_reordered (h : a.Reordered b) (hdeclared : PrincipalsDeclared a) :
    PrincipalsDeclared b := by
  intro probe hprobe hrunnable pid hpid
  rw [← h.principals]
  exact hdeclared probe (h.probes.mem_iff.mpr hprobe) hrunnable pid hpid

/-- The results and the skipped probes are the same in another order. -/
theorem runProbes_reordered (h : a.Reordered b) (hindex : v.Reordered w)
    {retrieve : Option Retrieve} (hsteady : Steady retrieve) {results : List ProbeResult}
    {skipped : List String} (hrun : runProbes a v retrieve = .ok (results, skipped)) :
    ∃ results' skipped', runProbes b w retrieve = .ok (results', skipped') ∧
      results.Perm results' ∧ skipped.Perm skipped' := by
  rcases (runProbes_eq_ok_iff _ _ _ _ _).mp hrun with ⟨enforce, henforce, hdeclared, rfl, rfl⟩
  rw [h.rule, hindex.enforcement] at henforce
  refine ⟨_, _, (runProbes_eq_ok_iff _ _ _ _ _).mpr
    ⟨enforce, henforce, principalsDeclared_reordered h hdeclared, rfl, rfl⟩, ?_,
    (h.probes.filter _).map _⟩
  have hresult : steadyResult a v enforce retrieve = steadyResult b w enforce retrieve := by
    funext asked
    simp only [steadyResult, answerTo, Question.live, probeResult_reordered h hindex,
      hindex.annLimit]
  rw [map_answerTo_steady hsteady, map_answerTo_steady hsteady, hresult,
    funext (askedOf_reordered h)]
  exact ((h.probes.filter _).flatMap_right _).map _

end Probes

/-! ## Reports -/

theorem exitStatus_reordered {a b : VerificationReport} (h : a.Reordered b) :
    exitStatus a = exitStatus b := by
  unfold exitStatus
  rw [h.propagation.isEmpty_eq, h.probes.any_eq, h.isPartial]

/-- A verification that reports does so in another order too. -/
theorem exists_verify_reordered {a b : Scenario} {v w : Variant} (h : a.Reordered b)
    (hindex : v.Reordered w) {retrieve : Option Retrieve} (hsteady : Steady retrieve)
    {site : String} {report : VerificationReport}
    (hverify : verify a v retrieve site = .ok report) :
    ∃ report', verify b w retrieve site = .ok report' ∧ report.Reordered report' := by
  rcases (verify_eq_ok_iff _ _ _ _ _).mp hverify with ⟨hcheck, hrun, hexamined, hflag, hsite⟩
  rcases checkPropagation_reordered h hindex hcheck with ⟨findings', hcheck', hfindings⟩
  rcases runProbes_reordered h hindex hsteady hrun with
    ⟨results', skipped', hrun', hresults, hskipped⟩
  refine ⟨{ chunksExamined := w.chunks.values.length, chunksUntraceable := _,
            propagation := findings', probes := results', probesSkipped := skipped',
            isPartial := !skipped'.isEmpty || results'.any fun p => decide (p.absentFromIndex ≠ ∅),
            enforcementSite := site },
    (verify_eq_ok_iff _ _ _ _ _).mpr ⟨hcheck', hrun', rfl, rfl, rfl⟩, ?_, rfl, hfindings,
    hresults, hskipped, ?_, hsite⟩
  · rw [hexamined]
    exact (Dict.values_perm hindex.chunks).length_eq
  · rw [hflag, hskipped.isEmpty_eq, hresults.any_eq]

/-- Verifying the same records in another order reports the same in another order and exits
alike, or fails as well. -/
theorem verify_reordered {a b : Scenario} {v w : Variant} (h : a.Reordered b)
    (hindex : v.Reordered w) {retrieve : Option Retrieve} (hsteady : Steady retrieve)
    (site : String) :
    (∃ report report', verify a v retrieve site = .ok report ∧
        verify b w retrieve site = .ok report' ∧ report.Reordered report' ∧
        exitStatus report = exitStatus report') ∨
      ∃ e e', verify a v retrieve site = .error e ∧ verify b w retrieve site = .error e' := by
  cases hverify : verify a v retrieve site with
  | ok report =>
      rcases exists_verify_reordered h hindex hsteady hverify with ⟨report', hverify', hreports⟩
      exact Or.inl ⟨report, report', rfl, hverify', hreports, exitStatus_reordered hreports⟩
  | error e =>
      cases hverify' : verify b w retrieve site with
      | ok report' =>
          rcases exists_verify_reordered h.symm hindex.symm hsteady hverify' with
            ⟨report, hreport, -⟩
          rw [hverify] at hreport
          cases hreport
      | error e' => exact Or.inr ⟨e, e', rfl, rfl⟩

/-- Two pages of a wiki. -/
def wikiPages : List SourceDocument :=
  [{ id := "d-plan", system := "wiki", entitlement := { state := .stated, roles := {"hr"} } },
    { id := "d-menu", system := "wiki", entitlement := { state := .stated, roles := {"eng"} } }]

/-- Their readers. -/
def wikiReaders : List Principal :=
  [{ id := "p-hr", label := "HR", roles := {"hr"} },
    { id := "p-eng", label := "Engineering", roles := {"eng"} }]

/-- A probe for each page. -/
def wikiProbes : List Probe :=
  [{ id := "q-plan", query := "plan", principals := ["p-hr", "p-eng"], matchIds := ["c-plan"] },
    { id := "q-menu", query := "menu", principals := ["p-hr", "p-eng"], matchIds := ["c-menu"] }]

/-- An index in which the two tags are swapped. -/
def wikiChunks : List Chunk :=
  [{ id := "c-plan", sourceDocumentIds := ["d-plan"],
     entitlement := { state := .stated, roles := {"eng"} } },
    { id := "c-menu", sourceDocumentIds := ["d-menu"],
      entitlement := { state := .stated, roles := {"hr"} } }]

/-- The rule of the wiki. -/
def wikiRule : EntitlementRule where
  system := "wiki"
  tenant := .ignored
  role := .intersects
  direct := .ignored
  combine := .tenantAndRole

theorem verify_reordered_wiki :
    (∃ report report',
      verify (Scenario.ofLists "wiki" wikiPages wikiReaders wikiProbes wikiRule)
          (Variant.ofChunks "swapped" wikiChunks "rule" none) none "simulated" = .ok report ∧
        verify (Scenario.ofLists "wiki" wikiPages.reverse wikiReaders.reverse wikiProbes.reverse
            wikiRule)
          (Variant.ofChunks "swapped" wikiChunks.reverse "rule" none) none "simulated" =
            .ok report' ∧
        report.Reordered report' ∧ exitStatus report = exitStatus report') ∨
      ∃ e e',
        verify (Scenario.ofLists "wiki" wikiPages wikiReaders wikiProbes wikiRule)
            (Variant.ofChunks "swapped" wikiChunks "rule" none) none "simulated" = .error e ∧
          verify (Scenario.ofLists "wiki" wikiPages.reverse wikiReaders.reverse
              wikiProbes.reverse wikiRule)
            (Variant.ofChunks "swapped" wikiChunks.reverse "rule" none) none "simulated" =
              .error e' :=
  verify_reordered
    (Scenario.reordered_ofLists wikiPages.reverse_perm.symm (by decide)
      wikiReaders.reverse_perm.symm (by decide) wikiProbes.reverse_perm.symm "wiki" "wiki"
      wikiRule)
    (Variant.reordered_ofChunks wikiChunks.reverse_perm.symm (by decide) "swapped" "swapped"
      "rule" none)
    (fun _ hask => by cases hask) "simulated"

end Tearline
