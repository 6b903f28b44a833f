import Tearline.Library.Timeline
import Tearline.Verify.Propagation

/-!
# Attributing a mismatch

A chunk that disagrees with its one source gets a cause from two timestamps: drift when the
access control list was changed after ingestion, a propagation fault otherwise.  Here the
cause is compared with the history the timestamps stand for.

Main results:

- Theorem {lit}`causeFromTimestamps_single`: the cause of a mismatch with one source.
- Theorem {lit}`soundCause_iff`: when the cause agrees with the history.
- Theorem {lit}`everyMismatchAttributed_iff`: when the check completes and leaves what it
  cannot order undetermined.
-/

namespace Tearline

/-! ## Comparing two times -/

/-- Whether a datetime carries a time zone. -/
def DateTime.isAware : DateTime → Bool
  | .naive _ => false
  | .aware _ => true

/-- The moment a datetime denotes on its own clock. -/
def DateTime.moment : DateTime → Int
  | .naive reading => reading
  | .aware instant => instant

/-- Two datetimes of one kind are compared by their moments. -/
theorem DateTime.gt_of_isAware_eq {a b : DateTime} (h : a.isAware = b.isAware) :
    a.gt b = .ok (decide (b.moment < a.moment)) := by
  cases a with
  | naive x =>
      cases b with
      | naive y => rfl
      | aware y => cases h
  | aware x =>
      cases b with
      | naive y => cases h
      | aware y => rfl

/-- Comparing two datetimes completes exactly when they are of one kind. -/
theorem DateTime.gt_isOk_iff (a b : DateTime) :
    (∃ later, a.gt b = .ok later) ↔ a.isAware = b.isAware := by
  constructor
  · intro hcompletes
    rcases hcompletes with ⟨later, hok⟩
    cases a <;> cases b <;> first | rfl | cases hok
  · intro h
    exact ⟨_, DateTime.gt_of_isAware_eq h⟩

/-- The cause of a mismatch with one source. -/
theorem causeFromTimestamps_single (chunk : Chunk) (source : SourceDocument) :
    causeFromTimestamps chunk [source] =
      match chunk.ingestedAt, source.aclModifiedAt with
      | some ingested, some modified =>
          (modified.gt ingested).map fun later =>
            if later then .drift else .propagationFault
      | _, _ => .ok .undetermined := by
  unfold causeFromTimestamps
  cases hmodified : source.aclModifiedAt with
  | none => cases chunk.ingestedAt <;> simp [hmodified]
  | some modified =>
      cases chunk.ingestedAt with
      | none => rfl
      | some ingested =>
          simp only [List.filterMap_cons, hmodified, List.filterMap_nil, List.length_singleton,
            ne_eq, not_true_eq_false, if_false, DateTime.maxOf, List.foldlM_nil, pure_bind]
          cases modified.gt ingested with
          | error failure => rfl
          | ok later => rfl

/-- A cause that could be computed is undetermined for want of a time, or says which of two
times of one kind is later. -/
theorem causeFromTimestamps_cases {chunk : Chunk} {source : SourceDocument}
    {cause : MismatchCause} (hcause : causeFromTimestamps chunk [source] = .ok cause) :
    (cause = .undetermined ∧ (chunk.ingestedAt = none ∨ source.aclModifiedAt = none)) ∨
      ∃ ingested modified, chunk.ingestedAt = some ingested ∧
        source.aclModifiedAt = some modified ∧ modified.isAware = ingested.isAware ∧
        cause = if ingested.moment < modified.moment then .drift else .propagationFault := by
  rw [causeFromTimestamps_single] at hcause
  cases hingested : chunk.ingestedAt with
  | none =>
      rw [hingested] at hcause
      exact Or.inl ⟨(Except.ok.inj hcause).symm, Or.inl rfl⟩
  | some ingested =>
      cases hmodified : source.aclModifiedAt with
      | none =>
          rw [hingested, hmodified] at hcause
          exact Or.inl ⟨(Except.ok.inj hcause).symm, Or.inr rfl⟩
      | some modified =>
          rw [hingested, hmodified] at hcause
          rcases Loop.map_eq_ok.mp hcause with ⟨later, hlater, rfl⟩
          have hkind := (DateTime.gt_isOk_iff modified ingested).mp ⟨later, hlater⟩
          rw [DateTime.gt_of_isAware_eq hkind] at hlater
          cases hlater
          refine Or.inr ⟨ingested, modified, rfl, rfl, hkind, ?_⟩
          simp only [decide_eq_true_eq]

/-- The causes that timestamps decide between. -/
def timestampCauses : Finset MismatchCause :=
  {.undetermined, .drift, .propagationFault}

/-- A mismatch with one source has such a cause. -/
theorem mem_timestampCauses {chunk : Chunk} {source : SourceDocument} {cause : MismatchCause}
    (hcause : causeFromTimestamps chunk [source] = .ok cause) : cause ∈ timestampCauses := by
  rcases causeFromTimestamps_cases hcause with ⟨rfl, -⟩ | ⟨_, _, -, -, -, rfl⟩
  · decide
  · split_ifs <;> decide

/-- Both times of a mismatch are recorded and are of one kind. -/
def Orderable (chunk : Chunk) (source : SourceDocument) : Prop :=
  ∃ ingested modified, chunk.ingestedAt = some ingested ∧
    source.aclModifiedAt = some modified ∧ modified.isAware = ingested.isAware

/-- Both times of a mismatch are recorded and one of them carries a time zone while the other
does not. -/
def MixedKinds (chunk : Chunk) (source : SourceDocument) : Prop :=
  ∃ ingested modified, chunk.ingestedAt = some ingested ∧
    source.aclModifiedAt = some modified ∧ modified.isAware ≠ ingested.isAware

/-- The cause of a mismatch can be computed exactly when its times are not of mixed kinds. -/
theorem causeFromTimestamps_isOk_iff (chunk : Chunk) (source : SourceDocument) :
    (∃ cause, causeFromTimestamps chunk [source] = .ok cause) ↔ ¬ MixedKinds chunk source := by
  rw [causeFromTimestamps_single]
  cases hingested : chunk.ingestedAt with
  | none => simp [MixedKinds, hingested]
  | some ingested =>
      cases hmodified : source.aclModifiedAt with
      | none => simp [MixedKinds, hmodified]
      | some modified =>
          have hmixed : MixedKinds chunk source ↔ modified.isAware ≠ ingested.isAware := by
            simp [MixedKinds, hingested, hmodified]
          rw [hmixed, ne_eq, not_not, ← DateTime.gt_isOk_iff]
          simp only [Loop.map_eq_ok]
          constructor
          · intro hcompletes
            rcases hcompletes with ⟨-, later, hok, -⟩
            exact ⟨later, hok⟩
          · intro hcompletes
            rcases hcompletes with ⟨later, hok⟩
            exact ⟨_, later, hok, rfl⟩

/-! ## The history behind a mismatch -/

/-- A document's access control list over time, and the ingestion that wrote a chunk's tag,
at distinct times. -/
structure History where
  acl : Timeline Int Entitlement
  ingestion : Int
  tag : Entitlement
  distinct : ∀ change ∈ acl.changes, change.1 ≠ ingestion

/-- The tag agreed with the list in force when it was written. -/
def History.Faithful (h : History) : Prop :=
  same h.tag (h.acl.valueAt h.ingestion) = true

/-- A chunk and its document as a history left them; each time is recorded or missing. -/
structure History.LeftBehind (h : History) (chunk : Chunk) (source : SourceDocument) : Prop where
  tag : chunk.entitlement = h.tag
  acl : source.entitlement = h.acl.current
  ingested : ∀ ingested, chunk.ingestedAt = some ingested → ingested.moment = h.ingestion
  modified : ∀ modified, source.aclModifiedAt = some modified →
    h.acl.lastChange = some modified.moment

/-- The cause says what happened, or that it is undetermined. -/
structure SoundCause (h : History) (cause : MismatchCause) : Prop where
  fault : cause = .propagationFault → ¬ h.Faithful
  drift : cause = .drift → h.Faithful
  otherwise : cause ≠ .propagationFault → cause ≠ .drift → cause = .undetermined

/-- Both times are recorded, the list was changed after ingestion, and ingestion was wrong
all the same. -/
def MistakenForDrift (h : History) (chunk : Chunk) (source : SourceDocument) : Prop :=
  chunk.ingestedAt ≠ none ∧ source.aclModifiedAt ≠ none ∧
    (∃ last, h.acl.lastChange = some last ∧ h.ingestion < last) ∧ ¬ h.Faithful

theorem soundCause_undetermined (h : History) : SoundCause h .undetermined :=
  ⟨MismatchCause.noConfusion, MismatchCause.noConfusion, fun _ _ => rfl⟩

/-- A tag that differs from a list unchanged since ingestion was wrong when it was written. -/
theorem History.not_faithful_of_unchanged {h : History} {last : Int}
    (hlast : h.acl.lastChange = some last) (hle : last ≤ h.ingestion)
    (hmismatch : same h.tag h.acl.current = false) : ¬ h.Faithful := by
  unfold Faithful
  rw [Timeline.valueAt_eq_current hlast hle, hmismatch]
  exact Bool.false_ne_true

/-- Drift is a sound cause exactly when the tag was right when it was written. -/
theorem soundCause_drift_iff (h : History) : SoundCause h .drift ↔ h.Faithful := by
  constructor
  · intro hsound
    exact hsound.drift rfl
  · intro hfaithful
    exact ⟨MismatchCause.noConfusion, fun _ => hfaithful, fun _ hother => absurd rfl hother⟩

/-- A propagation fault is one exactly when the tag was wrong when it was written. -/
theorem soundCause_fault_iff (h : History) :
    SoundCause h .propagationFault ↔ ¬ h.Faithful := by
  constructor
  · intro hsound
    exact hsound.fault rfl
  · intro hfault
    exact ⟨fun _ => hfault, MismatchCause.noConfusion, fun hother => absurd rfl hother⟩

/-- The cause computed for a mismatch is sound unless a wrong ingestion is mistaken for
drift. -/
theorem soundCause_causeFromTimestamps_iff {h : History} {chunk : Chunk}
    {source : SourceDocument} {cause : MismatchCause} (hleft : h.LeftBehind chunk source)
    (hmismatch : same chunk.entitlement source.entitlement = false)
    (hcause : causeFromTimestamps chunk [source] = .ok cause) :
    SoundCause h cause ↔ ¬ MistakenForDrift h chunk source := by
  rcases causeFromTimestamps_cases hcause with
    ⟨rfl, hmissing⟩ | ⟨ingested, modified, hingested, hmodified, -, rfl⟩
  · apply iff_of_true (soundCause_undetermined h)
    intro hmistaken
    exact hmissing.elim hmistaken.1 hmistaken.2.1
  · have hlast := hleft.modified modified hmodified
    have hmistaken : MistakenForDrift h chunk source ↔
        h.ingestion < modified.moment ∧ ¬ h.Faithful := by
      simp [MistakenForDrift, hingested, hmodified, hlast]
    rw [hleft.ingested ingested hingested, hmistaken]
    by_cases hafter : h.ingestion < modified.moment
    · rw [if_pos hafter, soundCause_drift_iff, not_and, not_not]
      exact ⟨fun hfaithful _ => hfaithful, fun hnot => hnot hafter⟩
    · rw [hleft.tag, hleft.acl] at hmismatch
      rw [if_neg hafter, soundCause_fault_iff]
      apply iff_of_true
      · exact History.not_faithful_of_unchanged hlast (not_lt.mp hafter) hmismatch
      · intro hboth
        exact hafter hboth.1

/-- The finding of a mismatch attributes it soundly unless a wrong ingestion is mistaken for
drift. -/
theorem soundCause_iff {scenario : Scenario} {variant : Variant}
    {findings : List PropagationFinding} {untraceable : Nat}
    (hcheck : checkPropagation scenario variant = .ok (findings, untraceable))
    {chunk : Chunk} (hchunk : chunk ∈ variant.chunks.values) {source : SourceDocument}
    (hsource : locatedSources scenario chunk = [source]) {h : History}
    (hleft : h.LeftBehind chunk source)
    (hmismatch : same chunk.entitlement source.entitlement = false) :
    (∀ f ∈ findings, f.chunkId = chunk.id → SoundCause h f.cause) ↔
      ¬ MistakenForDrift h chunk source := by
  rcases checkChunk_ok_of_mem hcheck hchunk with ⟨outcome, hok⟩
  rcases checkChunk_of_mismatch hsource hmismatch hok with ⟨found, rfl, -, hcause⟩
  rw [← soundCause_causeFromTimestamps_iff hleft hmismatch hcause]
  have hfinding := exists_finding_iff hcheck hchunk fun f => ¬ SoundCause h f.cause
  constructor
  · intro hall
    by_contra hunsound
    rcases hfinding.mpr ⟨found, hok, hunsound⟩ with ⟨f, hf, hid, hnot⟩
    exact hnot (hall f hf hid)
  · intro hsound f hf hid
    by_contra hunsound
    rcases hfinding.mp ⟨f, hf, hid, hunsound⟩ with ⟨other, hother, hnot⟩
    rw [hok] at hother
    cases hother
    exact hnot hsound

/-- A page of HR's, tagged for engineering at ingestion, which legal may read as well since a
later edit. -/
def misfiled : History where
  acl :=
    { initial := { state := .stated, roles := {"hr"} }
      changes := [(20, { state := .stated, roles := {"hr", "legal"} })]
      increasing := List.pairwise_singleton _ _ }
  ingestion := 10
  tag := { state := .stated, roles := {"eng"} }
  distinct := by simp

/-- The page after the edit. -/
def misfiledPage : SourceDocument where
  id := "d-page"
  system := "wiki"
  entitlement := { state := .stated, roles := {"hr", "legal"} }
  aclModifiedAt := some (.aware 20)

/-- Its chunk. -/
def misfiledChunk : Chunk where
  id := "c-page"
  sourceDocumentIds := ["d-page"]
  entitlement := { state := .stated, roles := {"eng"} }
  ingestedAt := some (.aware 10)

/-- The source system that holds the page. -/
def misfiledScenario : Scenario :=
  Scenario.ofLists "misfiled" [misfiledPage] [] []
    { system := "wiki", tenant := .ignored, role := .intersects, direct := .ignored,
      combine := .tenantAndRole }

/-- The index that holds the chunk. -/
def misfiledIndex : Variant :=
  Variant.ofChunks "live" [misfiledChunk] "rule" none

/-- The finding about the chunk. -/
def misfiledFinding : PropagationFinding where
  chunkId := "c-page"
  verdict := .contradicted
  cause := .drift
  observed := { state := .stated, roles := {"eng"} }
  expected := some { state := .stated, roles := {"hr", "legal"} }

theorem misfiled_leftBehind : misfiled.LeftBehind misfiledChunk misfiledPage where
  tag := rfl
  acl := rfl
  ingested := by simp [misfiledChunk, misfiled, DateTime.moment]
  modified := by simp [misfiledPage, misfiled, DateTime.moment, Timeline.lastChange]

theorem soundCause_iff_misfiled :
    (∀ f ∈ [misfiledFinding], f.chunkId = misfiledChunk.id → SoundCause misfiled f.cause) ↔
      ¬ MistakenForDrift misfiled misfiledChunk misfiledPage :=
  soundCause_iff
    (by decide +kernel : checkPropagation misfiledScenario misfiledIndex =
      .ok ([misfiledFinding], 0))
    (by decide +kernel : misfiledChunk ∈ misfiledIndex.chunks.values)
    (by decide +kernel : locatedSources misfiledScenario misfiledChunk = [misfiledPage])
    misfiled_leftBehind (by decide)

/-- The wrong ingestion is reported as drift. -/
theorem misfiled_mistaken :
    misfiled.LeftBehind misfiledChunk misfiledPage ∧
      checkPropagation misfiledScenario misfiledIndex = .ok ([misfiledFinding], 0) ∧
      misfiledFinding.cause = .drift ∧ ¬ misfiled.Faithful ∧
      ¬ SoundCause misfiled misfiledFinding.cause := by
  have hfault : ¬ misfiled.Faithful := by
    unfold History.Faithful
    decide +kernel
  exact ⟨misfiled_leftBehind, by decide +kernel, rfl, hfault,
    fun hsound => hfault (hsound.drift rfl)⟩

/-! ## Completing on every timestamp -/

/-- The check completes, and a mismatch whose times cannot be ordered is left
undetermined. -/
def EveryMismatchAttributed (scenario : Scenario) (variant : Variant) : Prop :=
  ∃ findings untraceable, checkPropagation scenario variant = .ok (findings, untraceable) ∧
    ∀ chunk ∈ variant.chunks.values, ∀ source, locatedSources scenario chunk = [source] →
      same chunk.entitlement source.entitlement = false → ¬ Orderable chunk source →
        ∃ f ∈ findings, f.chunkId = chunk.id ∧ f.cause = .undetermined

/-- Without two times of one kind there is no cause but the undetermined one. -/
theorem cause_eq_undetermined {chunk : Chunk} {source : SourceDocument} {cause : MismatchCause}
    (hcause : causeFromTimestamps chunk [source] = .ok cause)
    (hunordered : ¬ Orderable chunk source) : cause = .undetermined := by
  rcases causeFromTimestamps_cases hcause with
    ⟨hundetermined, -⟩ | ⟨ingested, modified, hingested, hmodified, hkind, -⟩
  · exact hundetermined
  · exact absurd ⟨ingested, modified, hingested, hmodified, hkind⟩ hunordered

/-- The check completes and attributes every mismatch exactly when no chunk that disagrees
with its one source has times of mixed kinds. -/
theorem everyMismatchAttributed_iff (scenario : Scenario) (variant : Variant) :
    EveryMismatchAttributed scenario variant ↔
      ∀ chunk ∈ variant.chunks.values, ∀ source, locatedSources scenario chunk = [source] →
        same chunk.entitlement source.entitlement = false → ¬ MixedKinds chunk source := by
  have hcompletes := checkPropagation_isOk_iff scenario variant
  simp only [checkChunk_isOk_iff, causeFromTimestamps_isOk_iff] at hcompletes
  rw [← hcompletes]
  constructor
  · intro hattributed
    rcases hattributed with ⟨findings, untraceable, hcheck, -⟩
    exact ⟨_, hcheck⟩
  · intro hrun
    rcases hrun with ⟨⟨findings, untraceable⟩, hcheck⟩
    refine ⟨findings, untraceable, hcheck, fun chunk hchunk source hsource hmismatch hnot => ?_⟩
    rcases checkChunk_ok_of_mem hcheck hchunk with ⟨outcome, hok⟩
    rcases checkChunk_of_mismatch hsource hmismatch hok with ⟨f, rfl, -, hcause⟩
    exact (exists_finding_iff hcheck hchunk fun f => f.cause = .undetermined).mpr
      ⟨f, hok, cause_eq_undetermined hcause hnot⟩

/-- The chunk with an ingestion time that carries no time zone. -/
def unzonedChunk : Chunk :=
  { misfiledChunk with ingestedAt := some (.naive 10) }

/-- The check raises on it. -/
theorem unzonedChunk_raises :
    checkPropagation misfiledScenario (Variant.ofChunks "live" [unzonedChunk] "rule" none) =
        .error .typeError ∧
      ¬ EveryMismatchAttributed misfiledScenario
        (Variant.ofChunks "live" [unzonedChunk] "rule" none) := by
  have hraises : checkPropagation misfiledScenario
      (Variant.ofChunks "live" [unzonedChunk] "rule" none) = .error .typeError := by
    decide +kernel
  refine ⟨hraises, ?_⟩
  intro hattributed
  rcases hattributed with ⟨findings, untraceable, hcheck, -⟩
  rw [hraises] at hcheck
  cases hcheck

end Tearline
