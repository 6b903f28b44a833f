import Tearline.CauseAttribution
import Tearline.SafeBound

/-!
# Sources that agree

Several sources of a chunk may all carry one entitlement, as they do when one document is
listed more than once.  The propagation axis counts the sources and does not compare them.

Main results:

- Theorem {lit}`entitled_safeBound_of_agree`: sources that agree have the bound of one.
- Theorem {lit}`judged_of_several`: how a chunk of several agreeing sources is judged.
- Theorem {lit}`determinate_iff`: when it is judged as a chunk of one of them alone.
-/

namespace Tearline

/-! ## The bound of sources that agree -/

/-- Folding a role set with itself leaves it. -/
theorem foldl_meetRoles_of_same {roles : Finset String} {entitlements : List Entitlement}
    (hroles : ∀ e ∈ entitlements, e.roles = roles) :
    entitlements.foldl (fun acc e => meetRoles acc e.roles) roles = roles := by
  induction entitlements with
  | nil => rfl
  | cons e entitlements ih =>
      rw [List.forall_mem_cons] at hroles
      have hself : meetRoles roles roles = roles := by simp [meetRoles]
      rw [List.foldl_cons, hroles.1, hself]
      exact ih hroles.2

/-- The common roles of sources that name the same roles are those roles. -/
theorem commonRoles_of_same {roles : Finset String} {entitlements : List Entitlement}
    (hne : entitlements ≠ []) (hroles : ∀ e ∈ entitlements, e.roles = roles) :
    commonRoles entitlements = roles := by
  cases entitlements with
  | nil => exact absurd rfl hne
  | cons e entitlements =>
      rw [List.forall_mem_cons] at hroles
      rw [commonRoles, List.foldl_cons, meetRoles_empty_left, hroles.1]
      exact foldl_meetRoles_of_same hroles.2

/-- What is common to sources that name the same in a field is what they name. -/
theorem commonOf_of_same (field : Entitlement → Finset String) {members : Finset String}
    {entitlements : List Entitlement} (hne : entitlements ≠ [])
    (hmembers : ∀ e ∈ entitlements, field e = members) :
    commonOf field entitlements = members := by
  ext x
  rw [mem_commonOf]
  constructor
  · intro hcommon
    rcases hcommon with ⟨-, hall⟩
    rcases List.exists_mem_of_ne_nil _ hne with ⟨e, he⟩
    rw [← hmembers e he]
    exact hall e he
  · intro hx
    refine ⟨hne, fun e he => ?_⟩
    rw [hmembers e he]
    exact hx

/-- The safe bound of sources that agree grants what each of them grants. -/
theorem entitled_safeBound_of_agree (rule : EntitlementRule) {entitlements : List Entitlement}
    {common bound : Entitlement} (hbound : safeBound entitlements = some bound)
    (hagree : ∀ e ∈ entitlements, same e common = true) (principal : Principal) :
    rule.entitled bound principal = rule.entitled common principal := by
  have hne : entitlements ≠ [] := by
    rintro rfl
    cases hbound
  simp only [same_eq_true_iff] at hagree
  rw [entitled_safeBound rule hbound]
  refine rule.entitled_congr principal ?_
    (commonOf_of_same Entitlement.tenants hne fun e he => (hagree e he).2.1)
    (commonRoles_of_same hne fun e he => (hagree e he).2.2.1)
    (commonOf_of_same Entitlement.principals hne fun e he => (hagree e he).2.2.2)
  cases hstate : common.state with
  | stated =>
      exact (commonEntitlement_state entitlements).mpr fun e he => (hagree e he).1.trans hstate
  | unknown =>
      rcases List.exists_mem_of_ne_nil _ hne with ⟨e, he⟩
      have hunstated : ¬ ∀ e ∈ entitlements, e.state = .stated := by
        intro hall
        have hstated := (hall e he).symm.trans ((hagree e he).1.trans hstate)
        cases hstated
      exact if_neg hunstated

/-! ## Judging a chunk of sources that agree -/

/-- The chunk as it would be if it were drawn from one document alone. -/
def Chunk.drawnFrom (chunk : Chunk) (id : String) : Chunk :=
  { chunk with sourceDocumentIds := [id] }

/-- A chunk whose tag is the common entitlement has no finding, one whose tag differs is
contradicted, and what is found of either is what would be found of it if it were drawn from one
of its documents alone. -/
structure Determinate (scenario : Scenario) (findings : List PropagationFinding) (chunk : Chunk)
    (common : Entitlement) : Prop where
  silent : same chunk.entitlement common = true → ∀ f ∈ findings, f.chunkId ≠ chunk.id
  contradicted : same chunk.entitlement common = false →
    ∃ f ∈ findings, f.chunkId = chunk.id ∧ f.verdict = .contradicted
  alone : ∃ id ∈ chunk.sourceDocumentIds, (∃ source, scenario.documents.get? id = some source) ∧
    ∀ f, f ∈ findings ∧ f.chunkId = chunk.id ↔
      checkChunk scenario (chunk.drawnFrom id) = .ok (some f)

/-- The tag grants a principal under test whom the common entitlement denies. -/
def Overgrants (scenario : Scenario) (chunk : Chunk) (common : Entitlement) : Prop :=
  ∃ p ∈ scenario.principals.values, scenario.rule.entitled chunk.entitlement p = true ∧
    scenario.rule.entitled common p = false

/-- A chunk drawn from a document that the source system holds has it for its one source. -/
theorem locatedSources_drawnFrom {scenario : Scenario} {id : String} {source : SourceDocument}
    (hsource : scenario.documents.get? id = some source) (chunk : Chunk) :
    locatedSources scenario (chunk.drawnFrom id) = [source] := by
  simp [locatedSources, Chunk.drawnFrom, hsource]

/-- A chunk with the same located sources is checked alike. -/
theorem checkChunk_drawnFrom {scenario : Scenario} {chunk : Chunk} {id : String}
    (hsources : locatedSources scenario (chunk.drawnFrom id) = locatedSources scenario chunk) :
    checkChunk scenario (chunk.drawnFrom id) = checkChunk scenario chunk := by
  unfold checkChunk
  rw [hsources]
  rfl

section Agreeing

variable {scenario : Scenario} {variant : Variant} {findings : List PropagationFinding}
  {untraceable : Nat} {chunk : Chunk} {common : Entitlement}

/-- A chunk of one source is determinate. -/
theorem determinate_of_single
    (hcheck : checkPropagation scenario variant = .ok (findings, untraceable))
    (hchunk : chunk ∈ variant.chunks.values) {source : SourceDocument}
    (hsource : locatedSources scenario chunk = [source])
    (hagree : same source.entitlement common = true) :
    Determinate scenario findings chunk common := by
  have htags : same chunk.entitlement source.entitlement = same chunk.entitlement common := by
    rcases (same_eq_true_iff _ _).mp hagree with ⟨hstate, htenants, hroles, hprincipals⟩
    simp only [same, hstate, htenants, hroles, hprincipals]
  refine ⟨fun hsame f hf hid => ?_, fun hdiffers => ?_, ?_⟩
  · exact (exists_finding_iff_not_same hcheck hchunk).mp ⟨f, hf, hid⟩
      ⟨source, hsource, htags.trans hsame⟩
  · rcases checkChunk_ok_of_mem hcheck hchunk with ⟨outcome, hok⟩
    rcases checkChunk_of_mismatch hsource (htags.trans hdiffers) hok with ⟨f, rfl, hverdict, -⟩
    exact (exists_finding_iff hcheck hchunk fun f => f.verdict = .contradicted).mpr
      ⟨f, hok, hverdict⟩
  · have hmem : source ∈ locatedSources scenario chunk := by simp [hsource]
    rcases List.mem_filterMap.mp hmem with ⟨id, hid, hfound⟩
    refine ⟨id, hid, ⟨source, hfound⟩, fun f => ?_⟩
    rw [checkChunk_drawnFrom ((locatedSources_drawnFrom hfound chunk).trans hsource.symm)]
    have hreported := exists_finding_iff hcheck hchunk (· = f)
    simpa using hreported

/-- A chunk of several sources that agree always has a finding, which contradicts it for exceeding
the safe bound exactly when the tag grants a principal beyond them. -/
theorem judged_of_several
    (hcheck : checkPropagation scenario variant = .ok (findings, untraceable))
    (hchunk : chunk ∈ variant.chunks.values)
    (hseveral : 2 ≤ (locatedSources scenario chunk).length)
    (hagree : ∀ source ∈ locatedSources scenario chunk, same source.entitlement common = true) :
    ∃ f ∈ findings, f.chunkId = chunk.id ∧
      (Overgrants scenario chunk common ∧ f.verdict = .contradicted ∧
          f.cause = .exceedsSafeBound ∨
        ¬ Overgrants scenario chunk common ∧ f.verdict = .unverifiable ∧
          f.cause = .indeterminateSource) := by
  rcases checkChunk_of_several hseveral with ⟨bound, f, hbound, hok, hverdict⟩
  have hgrants : ∀ p, scenario.rule.entitled bound p = scenario.rule.entitled common p :=
    entitled_safeBound_of_agree scenario.rule hbound (by simpa using hagree)
  have hbeyond : withinBound scenario chunk.entitlement bound scenario.principals.values = false ↔
      Overgrants scenario chunk common := by
    simp only [withinBound_eq_false_iff, hgrants]
    rfl
  refine (exists_finding_iff hcheck hchunk _).mpr ⟨f, hok, ?_⟩
  rw [← hbeyond, Bool.not_eq_false]
  exact hverdict.symm

/-- A chunk of sources that agree is judged as a chunk of one of them alone exactly when it has a
single located source. -/
theorem determinate_iff
    (hcheck : checkPropagation scenario variant = .ok (findings, untraceable))
    (hchunk : chunk ∈ variant.chunks.values) (hlocated : locatedSources scenario chunk ≠ [])
    (hagree : ∀ source ∈ locatedSources scenario chunk, same source.entitlement common = true) :
    Determinate scenario findings chunk common ↔ (locatedSources scenario chunk).length = 1 := by
  constructor
  · intro hdeterminate
    by_contra hsingle
    have hpos := List.length_pos_iff.mpr hlocated
    rcases judged_of_several hcheck hchunk (by omega) hagree with ⟨f, hf, hid, hjudged⟩
    rcases hdeterminate.alone with ⟨id, -, ⟨source, hfound⟩, halone⟩
    have hsource := locatedSources_drawnFrom hfound chunk
    have hok := (halone f).mp ⟨hf, hid⟩
    cases hsame : same (chunk.drawnFrom id).entitlement source.entitlement with
    | true => cases hok.symm.trans (checkChunk_of_same hsource hsame)
    | false =>
        -- Timestamps give a chunk of one document neither of the causes that a bound gives.
        rcases checkChunk_of_mismatch hsource hsame hok with ⟨g, hg, -, hcause⟩
        cases hg
        have hmem := mem_timestampCauses hcause
        rcases hjudged with ⟨-, -, hexceeds⟩ | ⟨-, -, hindeterminate⟩
        · rw [hexceeds] at hmem
          exact absurd hmem (by decide)
        · rw [hindeterminate] at hmem
          exact absurd hmem (by decide)
  · intro hsingle
    rcases List.length_eq_one_iff.mp hsingle with ⟨source, hsource⟩
    exact determinate_of_single hcheck hchunk hsource (hagree source (by simp [hsource]))

end Agreeing

/-- One page drawn twice into a chunk that is tagged as the page. -/
def sections : Scenario :=
  Scenario.ofLists "sections"
    [{ id := "d-page", system := "wiki", entitlement := { state := .stated, roles := {"hr"} } }]
    [{ id := "p-hr", label := "HR", roles := {"hr"} },
      { id := "p-eng", label := "Engineering", roles := {"eng"} }] []
    { system := "wiki", tenant := .ignored, role := .intersects, direct := .ignored,
      combine := .tenantAndRole }

/-- The chunk of {lit}`sections`. -/
def sectionsChunk : Chunk where
  id := "c-page"
  sourceDocumentIds := ["d-page", "d-page"]
  entitlement := { state := .stated, roles := {"hr"} }

/-- Its index. -/
def sectionsIndex : Variant :=
  Variant.ofChunks "live" [sectionsChunk] "rule" none

/-- The finding about it. -/
def sectionsFinding : PropagationFinding where
  chunkId := "c-page"
  verdict := .unverifiable
  cause := .indeterminateSource
  observed := { state := .stated, roles := {"hr"} }
  expected := some { state := .stated, roles := {"hr"} }
  detail := withinBoundDetail

theorem determinate_iff_sections :
    Determinate sections [sectionsFinding] sectionsChunk { state := .stated, roles := {"hr"} } ↔
      (locatedSources sections sectionsChunk).length = 1 :=
  determinate_iff
    (by decide +kernel : checkPropagation sections sectionsIndex = .ok ([sectionsFinding], 0))
    (by decide +kernel : sectionsChunk ∈ sectionsIndex.chunks.values)
    (by decide +kernel) (by decide +kernel)

/-- A chunk tagged as the one document it lists twice is reported as unverifiable. -/
theorem sections_reported :
    checkPropagation sections sectionsIndex = .ok ([sectionsFinding], 0) ∧
      (∀ source ∈ locatedSources sections sectionsChunk,
        same source.entitlement sectionsChunk.entitlement = true) ∧
      locatedSources sections sectionsChunk ≠ [] ∧
      ¬ Determinate sections [sectionsFinding] sectionsChunk sectionsChunk.entitlement := by
  refine ⟨by decide +kernel, by decide +kernel, by decide +kernel, fun hdeterminate => ?_⟩
  exact hdeterminate.silent (by decide) sectionsFinding (List.mem_singleton_self _) rfl

end Tearline
