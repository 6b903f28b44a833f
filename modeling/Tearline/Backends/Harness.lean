import Tearline.Backends.PgVectorScan
import Tearline.Backends.Qdrant
import Tearline.Verify.Reordering

/-!
# Loading an index into a store

The chunks of a fixture are written into a store, from which an adapter reads them back.  Neither
store has a place for a classification, a table turns every timestamp into an instant, and either
adapter may return the chunks in another order.

Main results:

- Theorem {lit}`PgVector.decodeRow_storedRowOf`: what a row keeps of a chunk.
- Theorem {lit}`Qdrant.decodePayload_payloadOf`: what a payload keeps of it.
- Theorem {lit}`PgVector.table_findings_loaded`: the propagation axis finds the same in a loaded
  table.
- Theorem {lit}`Qdrant.collection_findings_loaded`: and in a loaded collection.
-/

namespace Tearline

/-! ## What a store keeps -/

/-- The value of a state. -/
def EntitlementState.value : EntitlementState → String
  | .stated => "stated"
  | .unknown => "unknown"

/-- An entitlement without its classification. -/
def Entitlement.unclassified (entitlement : Entitlement) : Entitlement :=
  { entitlement with classification := none }

/-- A chunk without its classification. -/
def Chunk.unclassified (chunk : Chunk) : Chunk :=
  { chunk with entitlement := chunk.entitlement.unclassified }

/-- A finding without the classification it was observed with. -/
def PropagationFinding.unclassified (f : PropagationFinding) : PropagationFinding :=
  { f with observed := f.observed.unclassified }

theorem stateOf_value (state : EntitlementState) : stateOf (.str state.value) = .ok state := by
  cases state <;> rfl

/-- The texts of a set, sorted, make an entitlement with that set. -/
theorem entitlementOf_sorted (entitlement : Entitlement) :
    entitlementOf entitlement.state (Value.strs (Value.sortedTexts entitlement.tenants))
      (Value.strs (Value.sortedTexts entitlement.roles))
      (Value.strs (Value.sortedTexts entitlement.principals)) .null =
        .ok entitlement.unclassified := by
  simp only [entitlementOf, validated_eq_ok, Option.bind_eq_bind, Option.bind_eq_some_iff,
    asStrs_eq_some_iff, Value.strs_inj]
  refine ⟨_, rfl, _, rfl, _, rfl, none, rfl, ?_⟩
  simp only [Value.sortedTexts_toFinset]
  rfl

/-! ## Rows -/

namespace PgVector

/-- What is read from a column of timestamps with time zone: the instant that was written, or the
one that the session of the server took a reading without a zone for. -/
def timestamptz (sessionZone : Int → Int) : DateTime → Int
  | .aware instant => instant
  | .naive reading => sessionZone reading

/-- The row that `load_pgvector` inserts for a chunk, as it is read. -/
def storedRowOf (sessionZone : Int → Int) (chunk : Chunk) : StoredRow where
  id := .str chunk.id
  sourceDocumentIds := .list (Value.strs chunk.sourceDocumentIds)
  ingestedAt :=
    match chunk.ingestedAt with
    | none => .null
    | some time => .scalar (.datetime (timestamptz sessionZone time) true)
  entitlementState := .str chunk.entitlement.state.value
  tenants := .list (Value.strs (Value.sortedTexts chunk.entitlement.tenants))
  roles := .list (Value.strs (Value.sortedTexts chunk.entitlement.roles))
  principals := .list (Value.strs (Value.sortedTexts chunk.entitlement.principals))

/-- A row keeps everything of a chunk but its classification and, of a time without a zone, the
instant that the session of the server took it for. -/
theorem decodeRow_storedRowOf {coerce : Value → Option DateTime}
    (hcoerce : ∀ instant, coerce (.scalar (.datetime instant true)) = some (.aware instant))
    (sessionZone : Int → Int) (chunk : Chunk) :
    decodeRow coerce (storedRowOf sessionZone chunk) =
      .ok { chunk.unclassified with
            ingestedAt := chunk.ingestedAt.map fun t => .aware (timestamptz sessionZone t) } := by
  have htime : asOptionalDateTime coerce (storedRowOf sessionZone chunk).ingestedAt =
      some (chunk.ingestedAt.map fun t => .aware (timestamptz sessionZone t)) := by
    cases htime : chunk.ingestedAt with
    | none => simp only [storedRowOf, htime]; rfl
    | some time => simp [storedRowOf, htime, asOptionalDateTime, hcoerce]
  have hids : asStrs (Value.strs chunk.sourceDocumentIds) = some chunk.sourceDocumentIds :=
    asStrs_eq_some_iff.mpr rfl
  simp only [decodeRow, Loop.bind_eq_ok, read_eq_ok, validated_eq_ok]
  refine ⟨_, Value.iterate_orElse_list _, _, stateOf_value _, _, Value.elements_orElse_strs _, _,
    Value.elements_orElse_strs _, _, Value.elements_orElse_strs _, _, entitlementOf_sorted _, ?_⟩
  rw [htime, hids]
  rfl

end PgVector

/-! ## Payloads -/

namespace Qdrant

/-- The payload that `load_qdrant` puts for a chunk. -/
def payloadOf (isoformat : DateTime → String) (chunk : Chunk) : Value :=
  .dict
    [(.str "chunk_id", .str chunk.id),
      (.str "source_document_ids", .list (Value.strs chunk.sourceDocumentIds)),
      (.str "entitlement_state", .str chunk.entitlement.state.value),
      (.str "tenants", .list (Value.strs (Value.sortedTexts chunk.entitlement.tenants))),
      (.str "roles", .list (Value.strs (Value.sortedTexts chunk.entitlement.roles))),
      (.str "principals", .list (Value.strs (Value.sortedTexts chunk.entitlement.principals))),
      (.str "ingested_at",
        match chunk.ingestedAt with
        | none => .null
        | some time => .str (isoformat time))]

/-- The points that `load_qdrant` puts, with their ids. -/
def pointsOf (isoformat : DateTime → String) (chunks : List Chunk) : List (Nat × Value) :=
  chunks.mapIdx fun index chunk => (index + 1, payloadOf isoformat chunk)

variable {isoformat : DateTime → String} {fromisoformat : String → Option DateTime}

/-- A time of the chunk that is written in ISO format is a text from which it is read back. -/
def ReadsBack (isoformat : DateTime → String) (fromisoformat : String → Option DateTime)
    (chunk : Chunk) : Prop :=
  ∀ time, chunk.ingestedAt = some time →
    isoformat time ≠ "" ∧ fromisoformat (isoformat time) = some time

theorem ingestedAtOf_payloadOf {chunk : Chunk} (hiso : ReadsBack isoformat fromisoformat chunk) :
    ingestedAtOf fromisoformat (payloadOf isoformat chunk) = .ok chunk.ingestedAt := by
  cases htime : chunk.ingestedAt with
  | none =>
      simp only [ingestedAtOf, payloadOf, htime]
      rfl
  | some time =>
      rcases hiso time htime with ⟨hnonempty, htext⟩
      have htruthy : (Value.str (isoformat time)).truthy = true := by
        simp [Value.truthy, Scalar.truthy, hnonempty]
      simp only [ingestedAtOf, Loop.bind_eq_ok, read_eq_ok]
      refine ⟨.str (isoformat time), ?_, ?_⟩
      · simp only [payloadOf, htime]
        rfl
      · simp only [htruthy, if_true, htext]

/-- A payload keeps everything of a chunk but its classification. -/
theorem decodePayload_payloadOf {chunk : Chunk}
    (hiso : ReadsBack isoformat fromisoformat chunk) :
    decodePayload fromisoformat (payloadOf isoformat chunk) = .ok chunk.unclassified := by
  have hids : asStrs (Value.strs chunk.sourceDocumentIds) = some chunk.sourceDocumentIds :=
    asStrs_eq_some_iff.mpr rfl
  simp only [decodePayload, tupleAt, frozensetAt, Loop.bind_eq_ok, read_eq_ok, validated_eq_ok]
  refine ⟨_, rfl, _, ⟨_, rfl, Value.iterate_orElse_list _⟩, _, rfl, _, stateOf_value _, _,
    ⟨_, rfl, Value.elements_orElse_strs _⟩, _, ⟨_, rfl, Value.elements_orElse_strs _⟩, _,
    ⟨_, rfl, Value.elements_orElse_strs _⟩, _, entitlementOf_sorted _, _,
    ingestedAtOf_payloadOf hiso, ?_⟩
  rw [hids]
  rfl

end Qdrant

/-! ## Findings -/

/-- The check passes over the classification of a tag. -/
theorem checkChunk_unclassified (scenario : Scenario) (chunk : Chunk) :
    checkChunk scenario chunk.unclassified =
      (checkChunk scenario chunk).map (Option.map PropagationFinding.unclassified) := by
  have hlocated : locatedSources scenario chunk.unclassified = locatedSources scenario chunk := rfl
  have hcause : ∀ sources, causeFromTimestamps chunk.unclassified sources =
      causeFromTimestamps chunk sources := fun _ => rfl
  have hsame : ∀ entitlement, same chunk.unclassified.entitlement entitlement =
      same chunk.entitlement entitlement := fun _ => rfl
  have hwithin : ∀ bound principals,
      withinBound scenario chunk.unclassified.entitlement bound principals =
        withinBound scenario chunk.entitlement bound principals := fun _ _ => rfl
  unfold checkChunk
  simp only [hlocated, hcause, hsame, hwithin]
  split
  · rfl
  · split
    · rfl
    · generalize causeFromTimestamps chunk _ = cause
      cases cause <;> rfl
  · split
    · rfl
    · split <;> rfl

/-- Nor do the findings of an index. -/
theorem checkPropagation_unclassified {scenario : Scenario} {index : Variant}
    {findings : List PropagationFinding} {untraceable : Nat}
    (hcheck : checkPropagation scenario index = .ok (findings, untraceable))
    (name enforcement : String) (annLimit : Option Int) :
    checkPropagation scenario (Variant.ofChunks name
        (index.chunks.values.map Chunk.unclassified) enforcement annLimit) =
      .ok (findings.map PropagationFinding.unclassified, untraceable) := by
  rcases (checkPropagation_eq_ok_iff _ _ _ _).mp hcheck with ⟨outcomes, houtcomes, rfl, rfl⟩
  have hids : ((index.chunks.values.map Chunk.unclassified).map Chunk.id).Nodup := by
    rw [List.map_map]
    exact index.nodup_ids
  have hvalues : (Variant.ofChunks name (index.chunks.values.map Chunk.unclassified) enforcement
      annLimit).chunks.values = index.chunks.values.map Chunk.unclassified :=
    Dict.values_ofValues_of_nodup hids
  refine (checkPropagation_eq_ok_iff _ _ _ _).mpr
    ⟨outcomes.map (Option.map PropagationFinding.unclassified), ?_, ?_, ?_⟩
  · rw [hvalues, List.forall₂_map_left_iff, List.forall₂_map_right_iff]
    refine houtcomes.imp fun chunk outcome houtcome => ?_
    rw [checkChunk_unclassified, houtcome]
    rfl
  · rw [List.reduceOption_map]
  · rw [hvalues, List.countP_map]
    rfl

/-- An inventory that holds the chunks of an index in some order, but for their classifications,
has the findings of the index in some order, but for the classifications. -/
theorem checkPropagation_of_kept {scenario : Scenario} {index : Variant}
    {findings : List PropagationFinding} {untraceable : Nat}
    (hcheck : checkPropagation scenario index = .ok (findings, untraceable))
    {inventory : List Chunk}
    (hkept : inventory.Perm (index.chunks.values.map Chunk.unclassified))
    (name enforcement : String) (annLimit : Option Int) :
    ∃ found, checkPropagation scenario (Variant.ofChunks name inventory enforcement annLimit) =
        .ok (found, untraceable) ∧
      found.Perm (findings.map PropagationFinding.unclassified) := by
  have hids : ((index.chunks.values.map Chunk.unclassified).map Chunk.id).Nodup := by
    rw [List.map_map]
    exact index.nodup_ids
  have hsame : scenario.Reordered scenario := ⟨fun _ => rfl, fun _ => rfl, List.Perm.refl _, rfl⟩
  rcases checkPropagation_reordered hsame
    (Variant.reordered_ofChunks hkept.symm hids name name enforcement annLimit)
    (checkPropagation_unclassified hcheck name enforcement annLimit) with ⟨found, hfound, hperm⟩
  exact ⟨found, hfound, hperm.symm⟩

/-- A page of an index with a classification. -/
def classifiedPage : Chunk where
  id := "c-plan"
  sourceDocumentIds := ["d-plan"]
  entitlement := { state := .stated, tenants := {"acme"}, classification := some "secret" }
  ingestedAt := some (.aware 1785542400000000)

/-- The index of that page, whose source belongs to another tenant. -/
def classifiedIndex : Variant :=
  Variant.ofChunks "faulted" [classifiedPage] "rule" none

/-- The scenario of the page. -/
def classifiedScenario : Scenario where
  slug := "classified"
  documents := planSource
  principals := tenantsShared.principals
  probes := tenantsShared.probes
  rule := tenantsShared.rule

/-- The finding of the page. -/
def classifiedFinding : PropagationFinding where
  chunkId := "c-plan"
  verdict := .contradicted
  cause := .undetermined
  observed := classifiedPage.entitlement
  expected := some { state := .stated, tenants := {"globex"} }

theorem checkPropagation_classified :
    checkPropagation classifiedScenario classifiedIndex = .ok ([classifiedFinding], 0) := by
  decide +kernel

/-- Of a fixture whose timestamps are instants, loaded into a table, the propagation axis finds
the same as of the fixture, whenever the inventory is returned: through whatever else becomes of
the statements, and in whichever order the rows come. -/
theorem PgVector.table_findings_loaded {coerce : Value → Option DateTime}
    (hcoerce : ∀ instant, coerce (.scalar (.datetime instant true)) = some (.aware instant))
    {sessionZone : Int → Int} {scenario : Scenario} {index : Variant}
    (hinstants : ∀ chunk ∈ index.chunks.values, ∀ reading, chunk.ingestedAt ≠ some (.naive reading))
    {findings : List PropagationFinding} {untraceable : Nat}
    (hcheck : checkPropagation scenario index = .ok (findings, untraceable))
    {reading : Reading} {admin : Option (Session Settings)} {inventory : List Chunk}
    (hloaded : ∀ settings : Settings, settings.get? rowSecurity = some "off" →
      (reading.rows settings).Perm (index.chunks.values.map (storedRowOf sessionZone)))
    (hread : (chunks coerce admin reading).2 = .ok inventory) (name enforcement : String)
    (annLimit : Option Int) :
    ∃ found, checkPropagation scenario (Variant.ofChunks name inventory enforcement annLimit) =
        .ok (found, untraceable) ∧
      found.Perm (findings.map PropagationFinding.unclassified) := by
  rcases chunks_whole hread with ⟨settings, hoff, hdecoded, -⟩
  rcases List.perm_comp_forall₂ (hloaded settings hoff).symm hdecoded with ⟨out, hout, hperm⟩
  have hkept : out = index.chunks.values.map Chunk.unclassified := by
    rw [List.forall₂_map_left_iff] at hout
    rw [← List.forall₂_eq_eq_eq, List.forall₂_map_right_iff]
    refine (List.Forall₂.flip ((List.forall₂_and_left _ _).mpr ⟨fun _ => id, hout⟩)).imp ?_
    intro decoded chunk hdecode
    rcases hdecode with ⟨hchunk, hdecode⟩
    rw [decodeRow_storedRowOf hcoerce] at hdecode
    rw [← Except.ok.inj hdecode]
    cases htime : chunk.ingestedAt with
    | none => simp [Chunk.unclassified, htime]
    | some time =>
        cases time with
        | naive wall => exact absurd htime (hinstants chunk hchunk wall)
        | aware instant => simp [Chunk.unclassified, htime, timestamptz]
  rw [hkept] at hperm
  exact checkPropagation_of_kept hcheck hperm.symm name enforcement annLimit

/-- How a time that a row holds is read. -/
def PgVector.readInstant : Value → Option DateTime
  | .scalar (.datetime instant true) => some (.aware instant)
  | _ => none

/-- The table that holds the page. -/
def PgVector.classifiedReading : Reading where
  rows := fun _ => classifiedIndex.chunks.values.map (storedRowOf id)
  setting := .answered
  selecting := .answered
  fetched := true
  rollingBack := .answered

theorem PgVector.table_findings_loaded_classified :
    ∃ found, checkPropagation classifiedScenario
        (Variant.ofChunks "live" [classifiedPage.unclassified] "rule" none) = .ok (found, 0) ∧
      found.Perm ([classifiedFinding].map PropagationFinding.unclassified) := by
  have hinstants : ∀ chunk ∈ classifiedIndex.chunks.values, ∀ reading,
      chunk.ingestedAt ≠ some (.naive reading) := by
    intro chunk hchunk reading
    rw [show classifiedIndex.chunks.values = [classifiedPage] from rfl,
      List.mem_singleton] at hchunk
    rw [hchunk]
    simp [classifiedPage]
  have hread : (chunks readInstant (some .idle) classifiedReading).2 =
      .ok [classifiedPage.unclassified] :=
    Loop.mapError_eq_ok.mpr (Loop.mapM_eq_ok_iff.mpr
      (List.Forall₂.cons (decodeRow_storedRowOf (fun _ => rfl) id classifiedPage)
        List.Forall₂.nil))
  exact table_findings_loaded (fun _ => rfl) hinstants checkPropagation_classified
    (fun _ _ => List.Perm.refl _) hread "live" "rule" none

/-- The same of a fixture loaded into a collection, whatever its timestamps: the scroll ends and
the inventory is returned, and the propagation axis finds the same as of the fixture. -/
theorem Qdrant.collection_findings_loaded {isoformat : DateTime → String}
    {fromisoformat : String → Option DateTime} {scenario : Scenario} {index : Variant}
    (hiso : ∀ chunk ∈ index.chunks.values, ReadsBack isoformat fromisoformat chunk)
    {findings : List PropagationFinding} {untraceable : Nat}
    (hcheck : checkPropagation scenario index = .ok (findings, untraceable))
    {store : Scroll Nat} (hstore : ObeysContract store (pointsOf isoformat index.chunks.values))
    {fuel : Nat} (hfuel : index.chunks.values.length < fuel) (name enforcement : String)
    (annLimit : Option Int) :
    ∃ inventory found, chunks fromisoformat store fuel = some (.ok inventory) ∧
      checkPropagation scenario (Variant.ofChunks name inventory enforcement annLimit) =
        .ok (found, untraceable) ∧
      found.Perm (findings.map PropagationFinding.unclassified) := by
  have hpayloads : (pointsOf isoformat index.chunks.values).map Prod.snd =
      index.chunks.values.map (payloadOf isoformat) := by
    apply List.ext_getElem <;> simp [pointsOf]
  have hlength : (pointsOf isoformat index.chunks.values).length < fuel := by
    rwa [pointsOf, List.length_mapIdx]
  have hscroll := scroll_complete hstore hlength
  have hdecoded : (index.chunks.values.map (payloadOf isoformat)).mapM
      (decodePayload fromisoformat) = .ok (index.chunks.values.map Chunk.unclassified) := by
    rw [Loop.mapM_eq_ok_iff, List.forall₂_map_left_iff, List.forall₂_map_right_iff,
      List.forall₂_same]
    exact fun chunk hchunk => decodePayload_payloadOf (hiso chunk hchunk)
  have hkept : (sortedById (index.chunks.values.map Chunk.unclassified)).Perm
      (index.chunks.values.map Chunk.unclassified) := List.mergeSort_perm _ _
  rcases checkPropagation_of_kept hcheck hkept name enforcement annLimit with
    ⟨found, hfound, hperm⟩
  refine ⟨_, found, ?_, hfound, hperm⟩
  rw [chunks, hscroll, Option.map_some, hpayloads, hdecoded]
  rfl

/-- The time of the page in ISO format. -/
def Qdrant.pageTime : String :=
  "2026-08-01T00:00:00+00:00"

/-- How it is read. -/
def Qdrant.readPageTime (text : String) : Option DateTime :=
  if text = pageTime then classifiedPage.ingestedAt else none

/-- A collection that holds the page. -/
def Qdrant.classifiedStore : Scroll Nat := fun _ _ =>
  { items := [payloadOf (fun _ => pageTime) classifiedPage], next := none }

theorem Qdrant.classifiedStore_obeys :
    ObeysContract classifiedStore
      (pointsOf (fun _ => pageTime) classifiedIndex.chunks.values) where
  page n limit offset rest hlimit hrest := by
    have hone := Paging.From.of_singleton hrest
    exact ⟨1, hlimit, hone ▸ rfl, hone ▸ rfl⟩
  progress n limit offset rest _ hrest _ := List.cons_ne_nil _ _

theorem Qdrant.collection_findings_loaded_classified :
    ∃ inventory found, chunks readPageTime classifiedStore 2 = some (.ok inventory) ∧
      checkPropagation classifiedScenario
        (Variant.ofChunks "live" inventory "rule" none) = .ok (found, 0) ∧
      found.Perm ([classifiedFinding].map PropagationFinding.unclassified) := by
  have hiso : ∀ chunk ∈ classifiedIndex.chunks.values,
      ReadsBack (fun _ => pageTime) readPageTime chunk := by
    intro chunk hchunk time htime
    rw [show classifiedIndex.chunks.values = [classifiedPage] from rfl,
      List.mem_singleton] at hchunk
    subst hchunk
    exact ⟨show pageTime ≠ "" by decide, htime⟩
  exact collection_findings_loaded hiso checkPropagation_classified classifiedStore_obeys
    (by decide) "live" "rule" none

end Tearline
