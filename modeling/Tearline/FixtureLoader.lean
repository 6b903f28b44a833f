import Tearline.Fixtures
import Tearline.RuleLoader

/-!
# Loading a scenario and a variant

Documents, principals, probes and chunks are read entry by entry, and the sets and tuples of
identifiers in them by iterating over whatever the document holds.

Main definitions:

- Definitions {lit}`loadScenario` and {lit}`loadVariant`: the loaders.
- Structures {lit}`ScenarioWhole` and {lit}`VariantWhole`: every identifier is read whole.

Main results:

- Theorem {lit}`scenarioWhole_iff`: the scenarios whose identifiers are read whole.
- Theorem {lit}`fixturesWhole_iff`: the same for scenarios and variants.
-/

namespace Tearline

/-! ## Fields -/

/-- `tuple(raw[key])` -/
def tupleOf (raw : Value) (key : String) : Except LoadError (List Value) := do
  let value ← read (raw.subscript key)
  read value.iterate

/-- The source's `_entitlement`. -/
def rawEntitlement (raw : Value) : Except LoadError Entitlement := do
  let raw := raw.orElse (.dict [])
  let state ← read (raw.getD "state" (.str "unknown"))
  let state ← stateOf state
  let tenants ← frozensetAt raw "tenants"
  let roles ← frozensetAt raw "roles"
  let principals ← frozensetAt raw "principals"
  let classification ← read (raw.get "classification")
  entitlementOf state tenants roles principals classification

/-- `for entry in raw[key]` -/
def entriesOf (raw : Value) (key : String) : Except LoadError (List Value) := do
  let value ← read (raw.subscript key)
  read value.iterate

section Loaders

variable (render : Value → String) (coerce : Value → Option DateTime)

/-! ## Entries -/

/-- A document of `load_scenario`. -/
def loadDocument (system : String) (d : Value) : Except LoadError SourceDocument := do
  let id ← read (d.subscript "id")
  let label ← read (d.get "label")
  let aclModifiedAt ← read (d.get "acl_modified_at")
  let entitlement ← read (d.get "entitlement")
  let entitlement ← rawEntitlement entitlement
  validated "SourceDocument" do
    let label ← asOptionalStr label
    let aclModifiedAt ← asOptionalDateTime coerce aclModifiedAt
    return {
      id := textOf render id
      system := system
      label := label
      aclModifiedAt := aclModifiedAt
      entitlement := entitlement }

/-- A principal of `load_principals`. -/
def loadPrincipal (p : Value) : Except LoadError Principal := do
  let id ← read (p.subscript "id")
  let label ← read (p.getD "label" id)
  let tenant ← read (p.get "tenant")
  let roles ← frozensetAt p "roles"
  validated "Principal" do
    let tenant ← asOptionalStr tenant
    let roles ← asStrs roles
    return {
      id := textOf render id
      label := textOf render label
      tenant := tenant
      roles := roles.toFinset }

/-- A probe of `load_probes`. -/
def loadProbe (p : Value) : Except LoadError Probe := do
  let id ← read (p.subscript "id")
  let query ← read (p.subscript "query")
  let principals ← tupleOf p "principals"
  let matchIds ← tupleOf p "matches"
  validated "Probe" do
    let principals ← asStrs principals
    let matchIds ← asStrs matchIds
    return {
      id := textOf render id
      query := textOf render query
      principals := principals
      matchIds := matchIds }

/-- A chunk of `load_variant`. -/
def loadChunk (c : Value) : Except LoadError Chunk := do
  let id ← read (c.subscript "id")
  let sourceDocumentIds ← tupleAt c "source_document_ids"
  let ingestedAt ← read (c.get "ingested_at")
  let entitlement ← read (c.get "entitlement")
  let entitlement ← rawEntitlement entitlement
  validated "Chunk" do
    let sourceDocumentIds ← asStrs sourceDocumentIds
    let ingestedAt ← asOptionalDateTime coerce ingestedAt
    return {
      id := textOf render id
      sourceDocumentIds := sourceDocumentIds
      ingestedAt := ingestedAt
      entitlement := entitlement }

/-! ## Whole documents -/

/-- The source's `load_principals`, before the entries are filed. -/
def loadPrincipals (raw : Value) : Except LoadError (List Principal) := do
  let entries ← entriesOf raw "principals"
  entries.mapM (loadPrincipal render)

/-- The source's `load_probes`. -/
def loadProbes (raw : Value) : Except LoadError (List Probe) := do
  let entries ← entriesOf raw "probes"
  entries.mapM (loadProbe render)

/-- The four documents of a scenario; the rule may be missing. -/
structure ScenarioFiles where
  documents : Value
  principals : Value
  probes : Value
  rule : Option Value

/-- The rule of a scenario. -/
def loadSpeltRule (document : Option Value) : Except LoadError EntitlementRule := do
  let rule ← loadRule render document
  match rule.spelt with
  | some spelt => .ok spelt
  | none => .error (.ruleError (.unknownCombinator rule.combine))

/-- The source's `load_scenario`. -/
def loadScenario (slug : String) (files : ScenarioFiles) : Except LoadError Scenario := do
  let system ← read (files.documents.getD "system" (.str "unknown"))
  let entries ← entriesOf files.documents "documents"
  let documents ← entries.mapM (loadDocument render coerce (textOf render system))
  let principals ← loadPrincipals render files.principals
  let probes ← loadProbes render files.probes
  let rule ← loadSpeltRule render files.rule
  return Scenario.ofLists slug documents principals probes rule

/-- A variant as it is loaded: its candidate limit is whatever the document holds. -/
structure LoadedVariant where
  name : String
  chunks : Dict String Chunk
  enforcement : String
  annLimit : Value
  keyed : chunks.KeyedBy Chunk.id

/-- The source's `load_variant`. -/
def loadVariant (name : String) (raw : Value) : Except LoadError LoadedVariant := do
  let entries ← entriesOf raw "chunks"
  let chunks ← entries.mapM (loadChunk render coerce)
  let enforcement ← read (raw.getD "filter" (.str "rule"))
  let annLimit ← read (raw.get "ann_limit")
  return {
    name := name
    chunks := Dict.ofValues Chunk.id chunks
    enforcement := textOf render enforcement
    annLimit := annLimit
    keyed := Dict.keyedBy_ofValues Chunk.id chunks }

end Loaders

/-- The variant with the candidate limit that is applied to its probes. -/
def LoadedVariant.limited (loaded : LoadedVariant) (annLimit : Option Int) : Variant where
  name := loaded.name
  chunks := loaded.chunks
  enforcement := loaded.enforcement
  annLimit := annLimit
  keyed := loaded.keyed

/-! ## Reading whole -/

/-- The tenants, roles and direct grants of an entitlement are read whole. -/
structure EntitlementWhole (raw : Value) (ent : Entitlement) : Prop where
  tenants : (raw.entry "tenants").ReadsWhole ent.tenants
  roles : (raw.entry "roles").ReadsWhole ent.roles
  principals : (raw.entry "principals").ReadsWhole ent.principals

/-- The fields of an entitlement are itemised. -/
structure EntitlementItemised (raw : Value) : Prop where
  tenants : (raw.entry "tenants").Itemised
  roles : (raw.entry "roles").Itemised
  principals : (raw.entry "principals").Itemised

/-- The tenant of a principal is the whole scalar, and the roles are read whole. -/
structure PrincipalWhole (raw : Value) (p : Principal) : Prop where
  tenant : ∀ tenant, p.tenant = some tenant → (raw.entry "tenant").Holds tenant
  roles : (raw.entry "roles").ReadsWhole p.roles

/-- The principals and the matches of a probe are read whole. -/
structure ProbeWhole (raw : Value) (probe : Probe) : Prop where
  principals : (raw.entry "principals").ReadsWhole probe.principals.toFinset
  matchIds : (raw.entry "matches").ReadsWhole probe.matchIds.toFinset

/-- The principals and the matches of a probe are itemised. -/
structure ProbeItemised (raw : Value) : Prop where
  principals : (raw.entry "principals").Itemised
  matchIds : (raw.entry "matches").Itemised

/-- The sources and the entitlement of a chunk are read whole. -/
structure ChunkWhole (raw : Value) (chunk : Chunk) : Prop where
  sources : (raw.entry "source_document_ids").ReadsWhole chunk.sourceDocumentIds.toFinset
  entitlement : EntitlementWhole (raw.entry "entitlement") chunk.entitlement

/-- The sources and the entitlement of a chunk are itemised. -/
structure ChunkItemised (raw : Value) : Prop where
  sources : (raw.entry "source_document_ids").Itemised
  entitlement : EntitlementItemised (raw.entry "entitlement")

/-- A tuple that may not be left out is read whole exactly when its field is itemised. -/
theorem readsWhole_tupleOf {raw : Value} {key : String} {texts : List String}
    (h : tupleOf raw key = .ok (Value.strs texts)) :
    (raw.entry key).ReadsWhole texts.toFinset ↔ (raw.entry key).Itemised := by
  simp only [tupleOf, Loop.bind_eq_ok, read_eq_ok] at h
  rcases h with ⟨value, hvalue, hitems⟩
  rw [Value.subscript_eq_ok hvalue]
  exact Value.readsWhole_iff hitems

/-- An entitlement is read whole exactly when its fields are itemised. -/
theorem entitlementWhole_iff {raw : Value} {ent : Entitlement}
    (h : rawEntitlement raw = .ok ent) : EntitlementWhole raw ent ↔ EntitlementItemised raw := by
  simp only [rawEntitlement, Loop.bind_eq_ok, read_eq_ok, entitlementOf, validated_eq_ok,
    Option.bind_eq_bind, Option.bind_eq_some_iff, asStrs_eq_some_iff] at h
  rcases h with ⟨-, -, state, -, _, htenants, _, hroles, _, hprincipals, -, -, tenants, rfl,
    roles, rfl, principals, rfl, classification, -, hent⟩
  cases hent
  have htenants' := readsWhole_frozensetAt htenants
  have hroles' := readsWhole_frozensetAt hroles
  have hprincipals' := readsWhole_frozensetAt hprincipals
  simp only [Value.entry_orElse_dict] at htenants' hroles' hprincipals'
  constructor
  · intro hwhole
    exact ⟨htenants'.mp hwhole.tenants, hroles'.mp hwhole.roles,
      hprincipals'.mp hwhole.principals⟩
  · intro hitemised
    exact ⟨htenants'.mpr hitemised.tenants, hroles'.mpr hitemised.roles,
      hprincipals'.mpr hitemised.principals⟩

section Entries

variable {render : Value → String} {coerce : Value → Option DateTime} {raw : Value}

/-- The text under which an entry is filed. -/
def idText (render : Value → String) (raw : Value) : String :=
  textOf render (raw.entry "id")

theorem documentWhole_iff {system : String} {d : SourceDocument}
    (h : loadDocument render coerce system raw = .ok d) :
    EntitlementWhole (raw.entry "entitlement") d.entitlement ↔
      EntitlementItemised (raw.entry "entitlement") := by
  simp only [loadDocument, Loop.bind_eq_ok, read_eq_ok, validated_eq_ok, Option.bind_eq_bind,
    Option.bind_eq_some_iff] at h
  rcases h with ⟨_, -, _, -, _, -, entitlement, hget, ent, hent, _, -, _, -, hd⟩
  cases hd
  rw [Value.get_eq_ok hget]
  exact entitlementWhole_iff hent

theorem idText_of_loadDocument {system : String} {d : SourceDocument}
    (h : loadDocument render coerce system raw = .ok d) : idText render raw = d.id := by
  simp only [loadDocument, Loop.bind_eq_ok, read_eq_ok, validated_eq_ok, Option.bind_eq_bind,
    Option.bind_eq_some_iff] at h
  rcases h with ⟨id, hid, _, -, _, -, _, -, _, -, _, -, _, -, hd⟩
  cases hd
  rw [idText, Value.subscript_eq_ok hid]

theorem principalWhole_iff {p : Principal} (h : loadPrincipal render raw = .ok p) :
    PrincipalWhole raw p ↔ (raw.entry "roles").Itemised := by
  simp only [loadPrincipal, Loop.bind_eq_ok, read_eq_ok, validated_eq_ok, Option.bind_eq_bind,
    Option.bind_eq_some_iff, asStrs_eq_some_iff] at h
  rcases h with ⟨_, -, _, -, value, hvalue, _, hroles, tenant, htenant, roles, rfl, hp⟩
  cases hp
  have htenant' : ∀ text, tenant = some text → (raw.entry "tenant").Holds text := by
    intro text htext
    rw [Value.get_eq_ok hvalue, asOptionalStr_eq_some_iff.mp (htenant.trans (congrArg some htext))]
    rfl
  constructor
  · intro hwhole
    exact (readsWhole_frozensetAt hroles).mp hwhole.roles
  · intro hitemised
    exact ⟨htenant', (readsWhole_frozensetAt hroles).mpr hitemised⟩

theorem idText_of_loadPrincipal {p : Principal} (h : loadPrincipal render raw = .ok p) :
    idText render raw = p.id := by
  simp only [loadPrincipal, Loop.bind_eq_ok, read_eq_ok, validated_eq_ok, Option.bind_eq_bind,
    Option.bind_eq_some_iff] at h
  rcases h with ⟨id, hid, _, -, _, -, _, -, _, -, _, -, hp⟩
  cases hp
  rw [idText, Value.subscript_eq_ok hid]

theorem probeWhole_iff {probe : Probe} (h : loadProbe render raw = .ok probe) :
    ProbeWhole raw probe ↔ ProbeItemised raw := by
  simp only [loadProbe, Loop.bind_eq_ok, read_eq_ok, validated_eq_ok, Option.bind_eq_bind,
    Option.bind_eq_some_iff, asStrs_eq_some_iff] at h
  rcases h with ⟨_, -, _, -, _, hprincipals, _, hmatchIds, principals, rfl, matchIds, rfl, hprobe⟩
  cases hprobe
  constructor
  · intro hwhole
    exact ⟨(readsWhole_tupleOf hprincipals).mp hwhole.principals,
      (readsWhole_tupleOf hmatchIds).mp hwhole.matchIds⟩
  · intro hitemised
    exact ⟨(readsWhole_tupleOf hprincipals).mpr hitemised.principals,
      (readsWhole_tupleOf hmatchIds).mpr hitemised.matchIds⟩

theorem chunkWhole_iff {chunk : Chunk} (h : loadChunk render coerce raw = .ok chunk) :
    ChunkWhole raw chunk ↔ ChunkItemised raw := by
  simp only [loadChunk, Loop.bind_eq_ok, read_eq_ok, validated_eq_ok, Option.bind_eq_bind,
    Option.bind_eq_some_iff, asStrs_eq_some_iff] at h
  rcases h with ⟨_, -, _, hsources, _, -, _, hget, _, hent, sources, rfl, _, -, hchunk⟩
  cases hchunk
  have hentitlement := entitlementWhole_iff hent
  rw [← Value.get_eq_ok hget] at hentitlement
  constructor
  · intro hwhole
    exact ⟨(readsWhole_tupleAt hsources).mp hwhole.sources,
      hentitlement.mp hwhole.entitlement⟩
  · intro hitemised
    exact ⟨(readsWhole_tupleAt hsources).mpr hitemised.sources,
      hentitlement.mpr hitemised.entitlement⟩

theorem idText_of_loadChunk {chunk : Chunk} (h : loadChunk render coerce raw = .ok chunk) :
    idText render raw = chunk.id := by
  simp only [loadChunk, Loop.bind_eq_ok, read_eq_ok, validated_eq_ok, Option.bind_eq_bind,
    Option.bind_eq_some_iff] at h
  rcases h with ⟨id, hid, _, -, _, -, _, -, _, -, _, -, _, -, hchunk⟩
  cases hchunk
  rw [idText, Value.subscript_eq_ok hid]

end Entries

/-! ## Scenarios and variants read whole -/

/-- The entries listed under a key, if they can be iterated over. -/
def entriesIn (raw : Value) (key : String) : List Value :=
  match entriesOf raw key with
  | .ok entries => entries
  | .error _ => []

theorem entriesIn_eq {raw : Value} {key : String} {entries : List Value}
    (h : entriesOf raw key = .ok entries) : entriesIn raw key = entries := by
  rw [entriesIn, h]

/-- The entry that is kept under an id: the last one with it. -/
def filedEntry (render : Value → String) (entries : List Value) (id : String) : Option Value :=
  entries.reverse.find? fun entry => decide (idText render entry = id)

/-- Every identifier of a scenario is read whole from the entry it comes from. -/
structure ScenarioWhole (render : Value → String) (files : ScenarioFiles)
    (scenario : Scenario) : Prop where
  documents : ∀ id, Option.Rel
    (fun entry (d : SourceDocument) => EntitlementWhole (entry.entry "entitlement") d.entitlement)
    (filedEntry render (entriesIn files.documents "documents") id) (scenario.documents.get? id)
  principals : ∀ id, Option.Rel PrincipalWhole
    (filedEntry render (entriesIn files.principals "principals") id)
    (scenario.principals.get? id)
  probes : List.Forall₂ ProbeWhole (entriesIn files.probes "probes") scenario.probes

/-- Every entry a scenario comes from is itemised. -/
structure ScenarioItemised (render : Value → String) (files : ScenarioFiles) : Prop where
  documents : ∀ id entry,
    filedEntry render (entriesIn files.documents "documents") id = some entry →
      EntitlementItemised (entry.entry "entitlement")
  principals : ∀ id entry,
    filedEntry render (entriesIn files.principals "principals") id = some entry →
      (entry.entry "roles").Itemised
  probes : ∀ entry ∈ entriesIn files.probes "probes", ProbeItemised entry

/-- Every identifier of a variant is read whole from the entry it comes from. -/
def VariantWhole (render : Value → String) (raw : Value) (variant : LoadedVariant) : Prop :=
  ∀ id, Option.Rel ChunkWhole (filedEntry render (entriesIn raw "chunks") id)
    (variant.chunks.get? id)

/-- Every entry a variant comes from is itemised. -/
def VariantItemised (render : Value → String) (raw : Value) : Prop :=
  ∀ id entry, filedEntry render (entriesIn raw "chunks") id = some entry → ChunkItemised entry

section Whole

variable {render : Value → String} {coerce : Value → Option DateTime}

/-- What is filed comes from the entry that is kept under its id. -/
private theorem filed_rel {β : Type} {load : Value → Except LoadError β} {key : β → String}
    {entries : List Value} {values : List β} (h : entries.mapM load = .ok values)
    (hkey : ∀ entry value, load entry = .ok value → idText render entry = key value)
    (id : String) :
    Option.Rel (fun entry value => load entry = .ok value) (filedEntry render entries id)
      ((Dict.ofValues key values).get? id) :=
  Dict.rel_get?_ofValues (Loop.mapM_eq_ok_iff.mp h) hkey id

/-- A loaded scenario is read whole exactly when its entries are itemised. -/
theorem scenarioWhole_iff {slug : String} {files : ScenarioFiles} {scenario : Scenario}
    (h : loadScenario render coerce slug files = .ok scenario) :
    ScenarioWhole render files scenario ↔ ScenarioItemised render files := by
  simp only [loadScenario, loadPrincipals, loadProbes, Loop.bind_eq_ok, Loop.pure_eq_ok,
    read_eq_ok] at h
  rcases h with ⟨_, -, docEntries, hdocEntries, documents, hdocuments, principals,
    ⟨principalEntries, hprincipalEntries, hprincipals⟩, probes,
    ⟨probeEntries, hprobeEntries, hprobes⟩, _, -, rfl⟩
  have hd := fun id => Loop.optionRel_iff_forall
    (filed_rel hdocuments (fun _ _ => idText_of_loadDocument) id) fun _ _ => documentWhole_iff
  have hp := fun id => Loop.optionRel_iff_forall
    (filed_rel hprincipals (fun _ _ => idText_of_loadPrincipal) id) fun _ _ => principalWhole_iff
  have hq := Loop.forall₂_iff_forall (Loop.mapM_eq_ok_iff.mp hprobes)
    fun _ _ => probeWhole_iff
  rw [← entriesIn_eq hdocEntries] at hd
  rw [← entriesIn_eq hprincipalEntries] at hp
  rw [← entriesIn_eq hprobeEntries] at hq
  constructor
  · intro hwhole
    exact ⟨fun id => (hd id).mp (hwhole.documents id), fun id => (hp id).mp (hwhole.principals id),
      hq.mp hwhole.probes⟩
  · intro hitemised
    exact ⟨fun id => (hd id).mpr (hitemised.documents id),
      fun id => (hp id).mpr (hitemised.principals id), hq.mpr hitemised.probes⟩

/-- A loaded variant is read whole exactly when its entries are itemised. -/
theorem variantWhole_iff {name : String} {raw : Value} {variant : LoadedVariant}
    (h : loadVariant render coerce name raw = .ok variant) :
    VariantWhole render raw variant ↔ VariantItemised render raw := by
  simp only [loadVariant, Loop.bind_eq_ok, Loop.pure_eq_ok, read_eq_ok] at h
  rcases h with ⟨entries, hentries, chunks, hchunks, _, -, _, -, rfl⟩
  rw [VariantWhole, VariantItemised, entriesIn_eq hentries]
  apply forall_congr'
  intro id
  exact Loop.optionRel_iff_forall (filed_rel hchunks (fun _ _ => idText_of_loadChunk) id)
    fun _ _ => chunkWhole_iff

end Whole

/-- No identifier of a loaded fixture is made up exactly when no field of identifiers, in an
entry that is kept, is a text of other than one character or a mapping with a key. -/
theorem fixturesWhole_iff (render : Value → String) (coerce : Value → Option DateTime) :
    (∀ slug files scenario, loadScenario render coerce slug files = .ok scenario →
        (ScenarioWhole render files scenario ↔ ScenarioItemised render files)) ∧
      ∀ name raw variant, loadVariant render coerce name raw = .ok variant →
        (VariantWhole render raw variant ↔ VariantItemised render raw) :=
  ⟨fun _ _ _ h => scenarioWhole_iff h, fun _ _ _ h => variantWhole_iff h⟩

/-- An entry whose tenants are a single text. -/
def acmeEntry : Value :=
  .dict [(.str "id", .str "c-page"),
    (.str "source_document_ids", .list [.str "d-page"]),
    (.str "entitlement", .dict [(.str "state", .str "stated"), (.str "tenants", .str "acme")])]

/-- The index with that entry. -/
def acmeIndex : Value :=
  .dict [(.str "chunks", .list [acmeEntry])]

/-- Its chunk, with the characters of the text for tenants. -/
def acmeChunk : Chunk where
  id := "c-page"
  sourceDocumentIds := ["d-page"]
  entitlement :=
    { state := .stated, tenants := ("acme".toList.map String.singleton).toFinset }

/-- The variant. -/
def acmeVariant : LoadedVariant where
  name := "live"
  chunks := Dict.ofValues Chunk.id [acmeChunk]
  enforcement := "rule"
  annLimit := .null
  keyed := Dict.keyedBy_ofValues Chunk.id [acmeChunk]

theorem loadVariant_acme :
    loadVariant (fun _ => "") (fun _ => none) "live" acmeIndex = .ok acmeVariant :=
  rfl

/-- The single text is read as its characters, none of which the document states. -/
theorem acme_made_up :
    loadVariant (fun _ => "") (fun _ => none) "live" acmeIndex = .ok acmeVariant ∧
      ¬ VariantWhole (fun _ => "") acmeIndex acmeVariant := by
  refine ⟨loadVariant_acme, ?_⟩
  intro hwhole
  have hitemised := (variantWhole_iff loadVariant_acme).mp hwhole "c-page" acmeEntry rfl
  have hlength : "acme".length = 1 := hitemised.entitlement.tenants
  exact absurd hlength (by decide)

/-- A scenario whose one principal names its role the same way. -/
def acmeFiles : ScenarioFiles where
  documents := .dict [(.str "system", .str "wiki"), (.str "documents", .list [])]
  principals := .dict [(.str "principals", .list
    [.dict [(.str "id", .str "p-acme"), (.str "tenant", .str "acme"), (.str "roles", .str "hr")]])]
  probes := .dict [(.str "probes", .list [])]
  rule := some (.dict [(.str "system", .str "wiki"), (.str "rule", .dict
    [(.str "tenant", .str "member"), (.str "role", .str "intersects"),
      (.str "direct", .str "ignored"), (.str "combine", .str "tenant AND role")])])

/-- What is loaded of it. -/
def acmeScenario : Scenario :=
  Scenario.ofLists "acme" []
    [{ id := "p-acme", label := "p-acme", tenant := some "acme", roles := {"h", "r"} }] []
    { system := "wiki", tenant := .member, role := .intersects, direct := .ignored,
      combine := .tenantAndRole }

theorem fixturesWhole_iff_acme :
    (ScenarioWhole (fun _ => "") acmeFiles acmeScenario ↔
        ScenarioItemised (fun _ => "") acmeFiles) ∧
      (VariantWhole (fun _ => "") acmeIndex acmeVariant ↔
        VariantItemised (fun _ => "") acmeIndex) :=
  ⟨(fixturesWhole_iff (fun _ => "") fun _ => none).1 "acme" acmeFiles acmeScenario rfl,
    (fixturesWhole_iff (fun _ => "") fun _ => none).2 "live" acmeIndex acmeVariant
      loadVariant_acme⟩

end Tearline
