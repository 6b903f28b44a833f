import Tearline.Verify.Propagation

/-!
# Every chunk is classified

The check of an index says at most one thing about each chunk, in the order of the chunks, and
counts those nothing can be compared with.  What it does not mention is tagged as its source
for every rule and for everybody.

Main results:

- Theorem {lit}`checkChunk_expected_eq_none_iff`: a finding without an expected entitlement is
  about a chunk without a located source.
- Theorem {lit}`checkPropagation_classifies`: what a completed check says of every chunk.
-/

namespace Tearline

/-! ## What a finding expects -/

/-- A finding expects nothing exactly when its chunk has no located source. -/
theorem checkChunk_expected_eq_none_iff {scenario : Scenario} {chunk : Chunk}
    {f : PropagationFinding} (h : checkChunk scenario chunk = .ok (some f)) :
    f.expected = none ↔ locatedSources scenario chunk = [] := by
  unfold checkChunk at h
  split at h
  · rename_i hnone
    cases h
    exact iff_of_true rfl hnone
  · rename_i source hone
    split at h
    · cases h
    · simp only [Loop.bind_eq_ok, Loop.pure_eq_ok, Option.some.injEq] at h
      rcases h with ⟨cause, -, rfl⟩
      simp [hone]
  · rename_i hnone _
    split at h
    · cases h
    · split at h <;> cases h <;> exact iff_of_false (Option.some_ne_none _) hnone

/-! ## Silence -/

/-- Both readings of every rule treat two entitlements alike, whoever asks. -/
def Interchangeable (a b : Entitlement) : Prop :=
  ∀ (rule : EntitlementRule) (p : Principal), rule.entitled a p = rule.entitled b p ∧
    rule.admittedByNaiveFilter a p = rule.admittedByNaiveFilter b p

/-- Entitlements that agree on the compared fields are interchangeable. -/
theorem interchangeable_of_same {a b : Entitlement} (h : same a b = true) :
    Interchangeable a b := by
  intro rule p
  rcases (same_eq_true_iff a b).mp h with ⟨-, htenants, hroles, hprincipals⟩
  exact ⟨entitled_eq_of_same rule p h,
    rule.admittedByNaiveFilter_congr p htenants hroles hprincipals⟩

/-! ## The classification -/

/-- Whether some finding is about the chunk. -/
def Reported (findings : List PropagationFinding) (chunk : Chunk) : Prop :=
  ∃ f ∈ findings, f.chunkId = chunk.id

/-- The findings are about some of the chunks, in order and one each; the untraceable chunks
are counted and are those with a finding that expects nothing; and an unreported chunk has one
source it is interchangeable with. -/
structure Classifies (scenario : Scenario) (chunks : List Chunk)
    (findings : List PropagationFinding) (untraceable : Nat) : Prop where
  inOrder : ∃ reported, reported.Sublist chunks ∧
    List.Forall₂ (fun chunk f => f.chunkId = chunk.id) reported findings
  single : (findings.map PropagationFinding.chunkId).Nodup
  counted : untraceable = chunks.countP fun chunk => (locatedSources scenario chunk).isEmpty
  expectsNothing : ∀ chunk ∈ chunks, locatedSources scenario chunk = [] ↔
    ∃ f ∈ findings, f.chunkId = chunk.id ∧ f.expected = none
  silent : ∀ chunk ∈ chunks, ¬ Reported findings chunk →
    ∃ source, locatedSources scenario chunk = [source] ∧
      Interchangeable chunk.entitlement source.entitlement

private theorem reported_in_order {scenario : Scenario} {variant : Variant}
    {findings : List PropagationFinding} {untraceable : Nat}
    (h : checkPropagation scenario variant = .ok (findings, untraceable)) :
    ∃ reported, reported.Sublist variant.chunks.values ∧
      List.Forall₂ (fun chunk f => f.chunkId = chunk.id) reported findings := by
  rcases (checkPropagation_eq_ok_iff _ _ _ _).mp h with ⟨outcomes, houtcomes, rfl, -⟩
  rcases Loop.exists_sublist_reduceOption houtcomes with ⟨reported, hsublist, hreported⟩
  exact ⟨reported, hsublist, hreported.imp fun chunk f hf => (checkChunk_observed hf).1⟩

/-- A completed check classifies every chunk of the index. -/
theorem checkPropagation_classifies {scenario : Scenario} {variant : Variant}
    {findings : List PropagationFinding} {untraceable : Nat}
    (h : checkPropagation scenario variant = .ok (findings, untraceable)) :
    Classifies scenario variant.chunks.values findings untraceable := by
  constructor
  case inOrder => exact reported_in_order h
  case single =>
    rcases reported_in_order h with ⟨reported, hsublist, hreported⟩
    have hids : findings.map PropagationFinding.chunkId = reported.map Chunk.id := by
      rw [← List.forall₂_eq_eq_eq, List.forall₂_map_left_iff, List.forall₂_map_right_iff]
      exact hreported.flip
    rw [hids]
    exact variant.nodup_ids.sublist (hsublist.map Chunk.id)
  case counted =>
    rcases (checkPropagation_eq_ok_iff _ _ _ _).mp h with ⟨-, -, -, hcounted⟩
    exact hcounted
  case expectsNothing =>
    intro chunk hchunk
    rw [exists_finding_iff h hchunk]
    constructor
    · intro hnone
      rcases checkChunk_of_untraceable hnone with ⟨f, hf, -, hexpected⟩
      exact ⟨f, hf, hexpected⟩
    · intro hreported
      rcases hreported with ⟨f, hf, hexpected⟩
      exact (checkChunk_expected_eq_none_iff hf).mp hexpected
  case silent =>
    intro chunk hchunk hsilent
    rw [Reported, exists_finding_iff_not_same h hchunk, not_not] at hsilent
    rcases hsilent with ⟨source, hsource, hsame⟩
    exact ⟨source, hsource, interchangeable_of_same hsame⟩

/-- A handbook page, whose chunk is tagged as it is, and a chunk of a page that is gone. -/
def handbook : Scenario :=
  Scenario.ofLists "handbook"
    [{ id := "d-page", system := "wiki", entitlement := { state := .stated, roles := {"hr"} } }]
    [{ id := "p-hr", label := "HR", roles := {"hr"} }] []
    { system := "wiki", tenant := .ignored, role := .intersects, direct := .ignored,
      combine := .tenantAndRole }

/-- Its index. -/
def handbookIndex : Variant :=
  Variant.ofChunks "live"
    [{ id := "c-page", sourceDocumentIds := ["d-page"],
       entitlement := { state := .stated, roles := {"hr"} } },
      { id := "c-gone", sourceDocumentIds := ["d-gone"],
        entitlement := { state := .stated, roles := {"hr"} } }] "rule" none

/-- The finding about the chunk of the page that is gone. -/
def handbookFinding : PropagationFinding where
  chunkId := "c-gone"
  verdict := .unverifiable
  cause := .undetermined
  observed := { state := .stated, roles := {"hr"} }
  detail := untraceableDetail

theorem checkPropagation_classifies_handbook :
    Classifies handbook handbookIndex.chunks.values [handbookFinding] 1 :=
  checkPropagation_classifies
    (by decide +kernel : checkPropagation handbook handbookIndex = .ok ([handbookFinding], 1))

end Tearline
