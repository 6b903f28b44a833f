import Tearline.Verify.ProbeAudit
import Tearline.Verify.Propagation

/-!
# Losing a source document

A source system that loses a document leaves every chunk naming it with fewer located
sources.  Both axes judge a chunk by the sources that are left, so a chunk of two
documents can become one that agrees with its only source, and a denial can leave with
the document that made it.

Main results:

- Theorem {lit}`mem_locatedSources_withoutDocument`: the sources that are left.
- Theorem {lit}`over_kept_iff`: when a result keeps what was over retrieved.
- Theorem {lit}`keptAfterLoss_iff`: when nothing is upgraded by the loss.
-/

namespace Tearline

/-- The scenario after its source system has lost a document. -/
def Scenario.withoutDocument (scenario : Scenario) (d : String) : Scenario :=
  { scenario with documents := scenario.documents.del d }

section Loss

variable (scenario : Scenario) (d : String) (chunk : Chunk)

/-! ## What is left -/

/-- The located sources that are left are those of the other ids. -/
theorem mem_locatedSources_withoutDocument (source : SourceDocument) :
    source ∈ locatedSources (scenario.withoutDocument d) chunk ↔
      ∃ id ∈ chunk.sourceDocumentIds, id ≠ d ∧ scenario.documents.get? id = some source := by
  unfold locatedSources Scenario.withoutDocument
  rw [List.mem_filterMap]
  apply exists_congr
  intro id
  apply and_congr_right
  intro _
  by_cases hid : id = d
  · subst hid
    simp
  · rw [Dict.get?_del_of_ne _ hid]
    simp [hid]

/-- A chunk that does not name the document keeps its located sources. -/
theorem locatedSources_withoutDocument_of_notMem (h : d ∉ chunk.sourceDocumentIds) :
    locatedSources (scenario.withoutDocument d) chunk = locatedSources scenario chunk := by
  refine List.filterMap_congr fun id hid => Dict.get?_del_of_ne _ ?_
  rintro rfl
  exact h hid

/-- The check says the same about a chunk that does not name the document. -/
theorem checkChunk_withoutDocument_of_notMem (h : d ∉ chunk.sourceDocumentIds) :
    checkChunk (scenario.withoutDocument d) chunk = checkChunk scenario chunk := by
  unfold checkChunk
  rw [locatedSources_withoutDocument_of_notMem scenario d chunk h]
  rfl

/-- A chunk's sources deny a principal and those left grant it exactly when the lost
document alone denied it and something is left. -/
theorem sourceDenies_and_sourcesGrant_iff (principal : Principal) :
    SourceDenies scenario chunk principal ∧
        SourcesGrant (scenario.withoutDocument d) chunk principal ↔
      (d ∈ chunk.sourceDocumentIds ∧ ∃ document, scenario.documents.get? d = some document ∧
          scenario.rule.entitled document.entitlement principal = false) ∧
        SourcesGrant (scenario.withoutDocument d) chunk principal := by
  refine and_congr_left fun hgrant => ⟨?_, ?_⟩
  · intro hdenied
    rcases hdenied with ⟨source, hsource, hdenies⟩
    rcases List.mem_filterMap.mp hsource with ⟨id, hid, hfound⟩
    by_cases hlost : id = d
    · subst hlost
      exact ⟨hid, source, hfound, hdenies⟩
    · have hleft := (mem_locatedSources_withoutDocument scenario d chunk source).mpr
        ⟨id, hid, hlost, hfound⟩
      exact Bool.noConfusion (hdenies.symm.trans (hgrant.2 source hleft))
  · intro hdenied
    rcases hdenied with ⟨hid, document, hfound, hdenies⟩
    exact ⟨document, List.mem_filterMap.mpr ⟨d, hid, hfound⟩, hdenies⟩

end Loss

/-! ## The probe axis -/

/-- A result keeps what was over retrieved, or has it undetermined, exactly when nothing
served turns from denied to granted. -/
theorem over_kept_iff (scenario : Scenario) (variant : Variant) (enforce : Enforcement)
    (retrieve : Option Retrieve) (d : String) (q : Question) :
    (∀ cid ∈ (answerTo scenario variant enforce retrieve q).overRetrieved,
        cid ∈ (answerTo (scenario.withoutDocument d) variant enforce retrieve q).overRetrieved ∨
          cid ∈ (answerTo (scenario.withoutDocument d) variant enforce retrieve
            q).undeterminedReturned) ↔
      ∀ cid ∈ q.served variant enforce (q.live variant retrieve),
        judge scenario variant q.principal cid = .denied →
          judge (scenario.withoutDocument d) variant q.principal cid ≠ .granted := by
  have hsubset := (comparison scenario variant enforce retrieve q).overServed_subset_iff
    (judge (scenario.withoutDocument d) variant q.principal)
  refine Iff.trans (forall_congr' fun cid => ?_) hsubset
  rw [mem_overRetrieved_iff, mem_overRetrieved_iff, mem_undeterminedReturned_iff]
  refine imp_congr_right fun hover => or_congr_right ?_
  refine and_iff_left fun _ => held_of_judge_ne scenario variant q.principal cid ?_
  rw [show judge scenario variant q.principal cid = .denied from hover.2]
  exact Audit.Judgement.noConfusion

/-! ## Both axes -/

/-- No finding disappears and no chunk naming the document is passed over. -/
def FindingsKept (variant : Variant) (d : String)
    (findings findings' : List PropagationFinding) : Prop :=
  (∀ f ∈ findings, ∃ f' ∈ findings', f'.chunkId = f.chunkId) ∧
    ∀ chunk ∈ variant.chunks.values, d ∈ chunk.sourceDocumentIds →
      ∃ f' ∈ findings', f'.chunkId = chunk.id

/-- Nothing leaves a result's over retrieved ids but for its undetermined ones. -/
def ResultsKept (results results' : List ProbeResult) : Prop :=
  List.Forall₂
    (fun r r' => r.probeId = r'.probeId ∧ r.principalId = r'.principalId ∧
      ∀ cid ∈ r.overRetrieved, cid ∈ r'.overRetrieved ∨ cid ∈ r'.undeterminedReturned)
    results results'

/-- Every chunk naming the document that is left with one located source disagrees with
it, and their timestamps can be compared. -/
def LeftDisagrees (scenario : Scenario) (variant : Variant) (d : String) : Prop :=
  ∀ chunk ∈ variant.chunks.values, d ∈ chunk.sourceDocumentIds →
    ∀ source, locatedSources (scenario.withoutDocument d) chunk = [source] →
      same chunk.entitlement source.entitlement = false ∧
        ∃ cause, causeFromTimestamps chunk [source] = .ok cause

/-- Whatever is served to a principal whom the document denies is not granted by the
sources left. -/
def LeftDenies (scenario : Scenario) (variant : Variant) (retrieve : Option Retrieve)
    (d : String) : Prop :=
  ∀ enforce, enforcementFor scenario.rule variant.enforcement = .ok enforce →
    ∀ q ∈ questions scenario, ∀ cid ∈ q.served variant enforce (q.live variant retrieve),
      ∀ chunk, variant.chunks.get? cid = some chunk → d ∈ chunk.sourceDocumentIds →
        ∀ document, scenario.documents.get? d = some document →
          scenario.rule.entitled document.entitlement q.principal = false →
            ¬ SourcesGrant (scenario.withoutDocument d) chunk q.principal

/-- Nothing served turns from denied to granted exactly when no denial of the lost
document was the only one. -/
theorem denied_not_granted_iff (scenario : Scenario) (variant : Variant) (d : String)
    (principal : Principal) (cid : String) :
    (judge scenario variant principal cid = .denied →
        judge (scenario.withoutDocument d) variant principal cid ≠ .granted) ↔
      ∀ chunk, variant.chunks.get? cid = some chunk → d ∈ chunk.sourceDocumentIds →
        ∀ document, scenario.documents.get? d = some document →
          scenario.rule.entitled document.entitlement principal = false →
            ¬ SourcesGrant (scenario.withoutDocument d) chunk principal := by
  rw [judge_eq_denied_iff, ne_eq, judge_eq_granted_iff]
  constructor
  · intro hkept chunk hchunk hid document hfound hdenies hgrant
    have hboth := (sourceDenies_and_sourcesGrant_iff scenario d chunk principal).mpr
      ⟨⟨hid, document, hfound, hdenies⟩, hgrant⟩
    exact hkept ⟨chunk, hchunk, hboth.1⟩ ⟨chunk, hchunk, hboth.2⟩
  · intro hkept hdenied hgranted
    rcases hdenied with ⟨chunk, hchunk, hdenies⟩
    rcases hgranted with ⟨other, hother, hgrant⟩
    cases hchunk.symm.trans hother
    obtain ⟨⟨hid, document, hfound, hdenied⟩, -⟩ :=
      (sourceDenies_and_sourcesGrant_iff scenario d chunk principal).mp ⟨hdenies, hgrant⟩
    exact hkept chunk hchunk hid document hfound hdenied hgrant

/-- Where every chunk left with one source disagrees with it, the propagation axis completes
without the document. -/
private theorem checkPropagation_withoutDocument_isOk {scenario : Scenario} {variant : Variant}
    {findings : List PropagationFinding} {untraceable : Nat} {d : String}
    (hcheck : checkPropagation scenario variant = .ok (findings, untraceable))
    (hleft : LeftDisagrees scenario variant d) :
    ∃ out, checkPropagation (scenario.withoutDocument d) variant = .ok out := by
  rw [checkPropagation_isOk_iff]
  intro chunk hchunk
  by_cases hnames : d ∈ chunk.sourceDocumentIds
  · rw [checkChunk_isOk_iff]
    exact fun source hsources _ => (hleft chunk hchunk hnames source hsources).2
  · rw [checkChunk_withoutDocument_of_notMem scenario d chunk hnames]
    exact checkChunk_ok_of_mem hcheck hchunk

/-- The propagation axis completes without the document and keeps its findings exactly
when every chunk left with one source disagrees with it. -/
theorem findingsKept_iff {scenario : Scenario} {variant : Variant}
    {findings : List PropagationFinding} {untraceable : Nat} (d : String)
    (hcheck : checkPropagation scenario variant = .ok (findings, untraceable)) :
    (∃ findings' untraceable',
        checkPropagation (scenario.withoutDocument d) variant = .ok (findings', untraceable') ∧
        FindingsKept variant d findings findings') ↔
      LeftDisagrees scenario variant d := by
  constructor
  · intro hkept chunk hchunk hnames source hsources
    rcases hkept with ⟨findings', untraceable', hcheck', -, hreported⟩
    have hsame : same chunk.entitlement source.entitlement = false := by
      by_contra hsame
      exact (exists_finding_iff_not_same hcheck' hchunk).mp (hreported chunk hchunk hnames)
        ⟨source, hsources, Bool.not_eq_false _ ▸ hsame⟩
    refine ⟨hsame, (checkChunk_isOk_iff _ chunk).mp ?_ source hsources hsame⟩
    exact checkChunk_ok_of_mem hcheck' hchunk
  · intro hleft
    rcases checkPropagation_withoutDocument_isOk hcheck hleft with
      ⟨⟨findings', untraceable'⟩, hcheck'⟩
    have hreported : ∀ chunk ∈ variant.chunks.values, d ∈ chunk.sourceDocumentIds →
        ∃ f' ∈ findings', f'.chunkId = chunk.id := by
      intro chunk hchunk hnames
      refine (exists_finding_iff_not_same hcheck' hchunk).mpr ?_
      intro hsilent
      rcases hsilent with ⟨source, hsources, hsame⟩
      exact Bool.noConfusion (hsame.symm.trans (hleft chunk hchunk hnames source hsources).1)
    refine ⟨findings', untraceable', hcheck', fun f hf => ?_, hreported⟩
    rcases (mem_findings_iff hcheck f).mp hf with ⟨chunk, hchunk, hok⟩
    rw [(checkChunk_observed hok).1]
    by_cases hnames : d ∈ chunk.sourceDocumentIds
    · exact hreported chunk hchunk hnames
    · rw [← checkChunk_withoutDocument_of_notMem scenario d chunk hnames] at hok
      exact ⟨f, (mem_findings_iff hcheck' f).mpr ⟨chunk, hchunk, hok⟩, (checkChunk_observed hok).1⟩

/-- The probe axis completes without the document and keeps what was over retrieved
exactly when no denial of the lost document was the only one. -/
theorem resultsKept_iff {scenario : Scenario} {variant : Variant} {retrieve : Option Retrieve}
    {results : List ProbeResult} {skipped : List String} (d : String)
    (hrun : runProbes scenario variant retrieve = .ok (results, skipped)) :
    (∃ results' skipped',
        runProbes (scenario.withoutDocument d) variant retrieve = .ok (results', skipped') ∧
        ResultsKept results results') ↔
      LeftDenies scenario variant retrieve d := by
  rcases (runProbes_eq_ok_iff _ _ _ _ _).mp hrun with ⟨enforce, henforce, hdeclared, rfl, rfl⟩
  -- The lost document is not among what the questions are made of, so both runs ask the same.
  have hquestions : questions (scenario.withoutDocument d) = questions scenario := rfl
  have hkept : (∀ q ∈ questions scenario,
      ∀ cid ∈ (answerTo scenario variant enforce retrieve q).overRetrieved,
        cid ∈ (answerTo (scenario.withoutDocument d) variant enforce retrieve q).overRetrieved ∨
          cid ∈ (answerTo (scenario.withoutDocument d) variant enforce retrieve
            q).undeterminedReturned) ↔ _ :=
    forall₂_congr fun q _ => (over_kept_iff scenario variant enforce retrieve d q).trans
      (forall₂_congr fun cid _ => denied_not_granted_iff scenario variant d q.principal cid)
  constructor
  · intro hkept other hother
    rcases hkept with ⟨results', skipped', hrun', hresults⟩
    cases henforce.symm.trans hother
    rcases (runProbes_eq_ok_iff _ _ _ _ _).mp hrun' with ⟨other', hother', -, rfl, -⟩
    cases henforce.symm.trans hother'
    rw [ResultsKept, hquestions, List.forall₂_map_left_iff, List.forall₂_map_right_iff,
      List.forall₂_same] at hresults
    exact hkept.mp fun q hq => (hresults q hq).2.2
  · intro hleft
    refine ⟨_, _, (runProbes_eq_ok_iff _ _ _ _ _).mpr ⟨enforce, henforce, hdeclared, rfl, rfl⟩, ?_⟩
    rw [ResultsKept, hquestions, List.forall₂_map_left_iff, List.forall₂_map_right_iff,
      List.forall₂_same]
    exact fun q hq => ⟨rfl, rfl, hkept.mpr (hleft enforce henforce) q hq⟩

/-- Both axes complete without the document and upgrade nothing exactly when what is left
disagrees and denies wherever the document mattered. -/
theorem keptAfterLoss_iff {scenario : Scenario} {variant : Variant}
    {retrieve : Option Retrieve} {findings : List PropagationFinding} {untraceable : Nat}
    {results : List ProbeResult} {skipped : List String} (d : String)
    (hcheck : checkPropagation scenario variant = .ok (findings, untraceable))
    (hrun : runProbes scenario variant retrieve = .ok (results, skipped)) :
    (∃ findings' untraceable' results' skipped',
        checkPropagation (scenario.withoutDocument d) variant = .ok (findings', untraceable') ∧
        runProbes (scenario.withoutDocument d) variant retrieve = .ok (results', skipped') ∧
        FindingsKept variant d findings findings' ∧ ResultsKept results results') ↔
      LeftDisagrees scenario variant d ∧ LeftDenies scenario variant retrieve d := by
  rw [← findingsKept_iff d hcheck, ← resultsKept_iff d hrun]
  constructor
  · intro hkept
    rcases hkept with
      ⟨findings', untraceable', results', skipped', hcheck', hrun', hfindings, hresults⟩
    exact ⟨⟨findings', untraceable', hcheck', hfindings⟩, ⟨results', skipped', hrun', hresults⟩⟩
  · intro hkept
    rcases hkept with
      ⟨⟨findings', untraceable', hcheck', hfindings⟩, results', skipped', hrun', hresults⟩
    exact ⟨findings', untraceable', results', skipped', hcheck', hrun', hfindings, hresults⟩

/-- A page merged from two departments' documents and tagged for one of them. -/
def mergedDepartments : Scenario :=
  Scenario.ofLists "merged-departments"
    [{ id := "d-eng", system := "wiki", entitlement := { state := .stated, roles := {"eng"} } },
      { id := "d-hr", system := "wiki", entitlement := { state := .stated, roles := {"hr"} } }]
    [{ id := "p-eng", label := "Engineering", roles := {"eng"} },
      { id := "p-hr", label := "HR", roles := {"hr"} }]
    [{ id := "q-merged", query := "merged", principals := ["p-eng", "p-hr"],
       matchIds := ["c-merged"] }]
    { system := "wiki", tenant := .ignored, role := .intersects, direct := .ignored,
      combine := .tenantAndRole }

/-- The chunk merged from both documents of {lit}`mergedDepartments`. -/
def mergedDepartmentsChunk : Chunk where
  id := "c-merged"
  sourceDocumentIds := ["d-eng", "d-hr"]
  entitlement := { state := .stated, roles := {"eng"} }

/-- The index holding that chunk. -/
def mergedDepartmentsIndex : Variant :=
  Variant.ofChunks "merged" [mergedDepartmentsChunk] "rule" none

/-- Its one finding while both documents are held. -/
def mergedDepartmentsFinding : PropagationFinding where
  chunkId := "c-merged"
  verdict := .contradicted
  cause := .exceedsSafeBound
  observed := { state := .stated, roles := {"eng"} }
  expected := some { state := .stated }
  detail := beyondBoundDetail

/-- Its results while both documents are held: engineering over retrieves. -/
def mergedDepartmentsResults : List ProbeResult :=
  [{ probeId := "q-merged", principalId := "p-eng", returned := ["c-merged"],
     overRetrieved := {"c-merged"}, underRetrieved := ∅, verdict := .contradicted,
     outcome := .overRetrieval },
    { probeId := "q-merged", principalId := "p-hr", returned := [], overRetrieved := ∅,
      underRetrieved := ∅, verdict := .verified, outcome := .clean }]

/-- Its results without HR's document: everything verified. -/
def mergedDepartmentsLeft : List ProbeResult :=
  [{ probeId := "q-merged", principalId := "p-eng", returned := ["c-merged"],
     overRetrieved := ∅, underRetrieved := ∅, verdict := .verified, outcome := .clean },
    { probeId := "q-merged", principalId := "p-hr", returned := [], overRetrieved := ∅,
      underRetrieved := ∅, verdict := .verified, outcome := .clean }]

theorem keptAfterLoss_iff_mergedDepartments :
    (∃ findings' untraceable' results' skipped',
        checkPropagation (mergedDepartments.withoutDocument "d-hr") mergedDepartmentsIndex =
          .ok (findings', untraceable') ∧
        runProbes (mergedDepartments.withoutDocument "d-hr") mergedDepartmentsIndex none =
          .ok (results', skipped') ∧
        FindingsKept mergedDepartmentsIndex "d-hr" [mergedDepartmentsFinding] findings' ∧
        ResultsKept mergedDepartmentsResults results') ↔
      LeftDisagrees mergedDepartments mergedDepartmentsIndex "d-hr" ∧
        LeftDenies mergedDepartments mergedDepartmentsIndex none "d-hr" :=
  keptAfterLoss_iff "d-hr"
    (by decide +kernel : _ = Except.ok ([mergedDepartmentsFinding], 0))
    (by decide +kernel : _ = Except.ok (mergedDepartmentsResults, []))

/-- Losing HR's document leaves the merged page accepted on both axes. -/
theorem mergedDepartments_loss_upgrades :
    checkPropagation mergedDepartments mergedDepartmentsIndex =
        .ok ([mergedDepartmentsFinding], 0) ∧
      runProbes mergedDepartments mergedDepartmentsIndex none =
        .ok (mergedDepartmentsResults, []) ∧
      checkPropagation (mergedDepartments.withoutDocument "d-hr") mergedDepartmentsIndex =
        .ok ([], 0) ∧
      runProbes (mergedDepartments.withoutDocument "d-hr") mergedDepartmentsIndex none =
        .ok (mergedDepartmentsLeft, []) ∧
      mergedDepartmentsChunk ∈ mergedDepartmentsIndex.chunks.values ∧
      "d-hr" ∈ mergedDepartmentsChunk.sourceDocumentIds ∧
      ¬ FindingsKept mergedDepartmentsIndex "d-hr" [mergedDepartmentsFinding] [] ∧
      ¬ ResultsKept mergedDepartmentsResults mergedDepartmentsLeft := by
  refine ⟨by decide +kernel, by decide +kernel, by decide +kernel, by decide +kernel,
    by decide +kernel, by decide, fun hkept => ?_, fun hkept => ?_⟩
  · rcases hkept.1 _ List.mem_cons_self with ⟨f, hf, -⟩
    simp at hf
  · rcases List.forall₂_cons.mp hkept with ⟨hhead, -⟩
    simpa using hhead.2.2 "c-merged" (by decide)

end Tearline
