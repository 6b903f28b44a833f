import Mathlib.Data.List.DropRight
import Tearline.FixtureLoader
import Tearline.Sources

/-!
# Loading a target

A target description names a source system and a backend.  The source has to state which tenant
each group of readers belongs to and where its files are; the backend, how it is reached.  The
description is read in the order of the source, and nothing is connected to before it is.

Main definitions:

- Definition {lit}`loadTarget`: the loader.
- Structure {lit}`Described`: a description, and the target that it describes.

Main results:

- Theorem {lit}`loadTarget_eq_ok_iff`: exactly what describes a target is loaded.
- Theorem {lit}`loadTarget_eq_error_iff`: what anything else is refused for.
-/

namespace Tearline

/-! ## Failures -/

/-- What is wrong with a target description. -/
inductive ScanError (Path : Type)
  /-- ``target.yaml has no `{key}:` mapping`` -/
  | noMapping (key : String)
  /-- ``unknown source kind {kind!r}; `filesystem` is the only adapter (DEC-020)`` -/
  | unknownSource (kind : Value)
  /-- ``the source states no `group_to_tenant` mapping. …`` -/
  | noGroupToTenant
  /-- `source root {root} is not a directory` -/
  | notADirectory (root : Path)
  /-- ``unknown backend kind {kind!r}; `qdrant` and `pgvector` are supported`` -/
  | unknownBackend (kind : Value)

/-- How loading a target fails. -/
inductive TargetFailure (Path : Type)
  | scanError (fault : ScanError Path)
  /-- An operation on the description raises. -/
  | raised (e : Value.Error)

/-- An operation on a description, as a step of its loader. -/
def readTarget {Path α : Type} (x : Except Value.Error α) : Except (TargetFailure Path) α :=
  x.mapError .raised

/-- Raise unless a condition holds. -/
def insist {Path : Type} (condition : Bool) (fault : ScanError Path) :
    Except (TargetFailure Path) Unit :=
  if condition then .ok () else .error (.scanError fault)

/-! ## The loader -/

/-- What the description is read on: how a path is resolved against the target's, what walking a
directory meets, and how a value that is not a text is printed. -/
structure Host (Path : Type) where
  /-- `(base / root).resolve()` -/
  resolve : Path → String → Path
  /-- The tree of a path that is a directory. -/
  tree? : Path → Option FileTree
  render : Value → String

/-- What an adapter is constructed with. -/
inductive BackendSpec
  | qdrant (base collection : String)
  | pgvector (dsn : String) (adminDsn : Option String)
deriving DecidableEq, Repr

/-- `COLLECTION` -/
def defaultCollection : String :=
  "tearline_chunks"

/-- `base_url.rstrip("/")` -/
def rstripSlash (text : String) : String :=
  String.ofList (text.toList.rdropWhile fun c => decide (c = '/'))

/-- `{str(k): str(v) for k, v in mapping.items()}` -/
def textMapping (render : Value → String) (entries : List (Scalar × Value)) :
    Dict String String :=
  entries.foldl
    (fun d e => d.set (textOf render (.scalar e.1)) (textOf render e.2)) ∅

/-- A target, with the candidate limit as the description holds it. -/
structure LoadedTarget where
  source : FilesystemSource
  backend : BackendSpec
  enforcement : String
  annLimit : Value

section Loader

variable {Path : Type} (host : Host Path)

/-- `isinstance(mapping, dict) and mapping` -/
def nonemptyMapping : Value → Bool
  | .dict entries => !entries.isEmpty
  | _ => false

/-- The items of a mapping. -/
def itemsOf : Value → List (Scalar × Value)
  | .dict entries => entries
  | _ => []

/-- The source's `_source`. -/
def loadSource (base : Path) (raw : Value) : Except (TargetFailure Path) FilesystemSource := do
  let kind ← readTarget (raw.get "kind")
  insist (decide (asStr kind = some "filesystem")) (.unknownSource kind)
  let mapping ← readTarget (raw.get "group_to_tenant")
  insist (nonemptyMapping mapping) .noGroupToTenant
  let name ← readTarget (raw.getD "root" (.str "."))
  let root := host.resolve base (textOf host.render name)
  match host.tree? root with
  | none => .error (.scanError (.notADirectory root))
  | some tree =>
      return { root := tree, groupToTenant := textMapping host.render (itemsOf mapping) }

/-- The source's `_backend`, up to the connections. -/
def loadBackend (raw : Value) : Except (TargetFailure Path) BackendSpec := do
  let kind ← readTarget (raw.get "kind")
  if asStr kind = some "qdrant" then
    let base ← readTarget (raw.subscript "base_url")
    let collection ← readTarget (raw.getD "collection" (.str defaultCollection))
    return .qdrant (rstripSlash (textOf host.render base)) (textOf host.render collection)
  else if asStr kind = some "pgvector" then
    let admin ← readTarget (raw.get "admin_dsn")
    let dsn ← readTarget (raw.subscript "dsn")
    return .pgvector (textOf host.render dsn)
      (if admin.truthy then some (textOf host.render admin) else none)
  else .error (.scanError (.unknownBackend kind))

/-- ``if not isinstance(raw.get(key), dict): raise`` -/
def insistMapping (raw : Value) (key : String) : Except (TargetFailure Path) Unit := do
  let value ← readTarget (raw.get key)
  insist value.isDict (.noMapping key)

/-- The source's `load_target`, on the document of `target.yaml`. -/
def loadTarget (base : Path) (document : Value) : Except (TargetFailure Path) LoadedTarget := do
  let raw := document.orElse (.dict [])
  ["source", "backend"].forM (insistMapping raw)
  let source ← readTarget (raw.subscript "source")
  let source ← loadSource host base source
  let backend ← readTarget (raw.subscript "backend")
  let backend ← loadBackend host backend
  let enforcement ← readTarget (raw.getD "enforcement" (.str "rule"))
  let annLimit ← readTarget (raw.get "ann_limit")
  return {
    source := source
    backend := backend
    enforcement := textOf host.render enforcement
    annLimit := annLimit }

end Loader

/-! ## What describes a target -/

section Described

variable {Path : Type} {host : Host Path} {base : Path}

/-- The fields describe a source: the only kind there is, a tenant for some group, and a root
that is a directory. -/
structure SourceDescribed (host : Host Path) (base : Path) (fields : List (Scalar × Value))
    (source : FilesystemSource) : Prop where
  kind : Value.field fields "kind" = .str "filesystem"
  mapping : ∃ groups, Value.field fields "group_to_tenant" = .dict groups ∧ groups ≠ [] ∧
    source.groupToTenant = textMapping host.render groups
  root : host.tree? (host.resolve base
    (textOf host.render ((Value.lookup? fields "root").getD (.str ".")))) = some source.root
  system : source.system = "posix-filesystem"

/-- The fields describe a backend of one of the two kinds. -/
def BackendDescribed (host : Host Path) (fields : List (Scalar × Value)) : BackendSpec → Prop
  | .qdrant url collection =>
      Value.field fields "kind" = .str "qdrant" ∧
        (∃ value, Value.lookup? fields "base_url" = some value ∧
          url = rstripSlash (textOf host.render value)) ∧
        collection =
          textOf host.render ((Value.lookup? fields "collection").getD (.str defaultCollection))
  | .pgvector dsn adminDsn =>
      Value.field fields "kind" = .str "pgvector" ∧
        (∃ value, Value.lookup? fields "dsn" = some value ∧ dsn = textOf host.render value) ∧
        adminDsn =
          if (Value.field fields "admin_dsn").truthy then
            some (textOf host.render (Value.field fields "admin_dsn")) else none

/-- The document describes the target. -/
structure Described (host : Host Path) (base : Path) (document : Value) (target : LoadedTarget) :
    Prop where
  fields : ∃ entries source backend, document = .dict entries ∧
    Value.field entries "source" = .dict source ∧ Value.field entries "backend" = .dict backend ∧
      SourceDescribed host base source target.source ∧
        BackendDescribed host backend target.backend ∧
        target.enforcement =
          textOf host.render ((Value.lookup? entries "enforcement").getD (.str "rule")) ∧
          target.annLimit = Value.field entries "ann_limit"

@[simp]
theorem readTarget_eq_ok {α : Type} {x : Except Value.Error α} {a : α} :
    (readTarget x : Except (TargetFailure Path) α) = .ok a ↔ x = .ok a :=
  Loop.mapError_eq_ok

@[simp]
theorem insist_eq_ok {condition : Bool} {fault : ScanError Path} {done : Unit} :
    insist condition fault = .ok done ↔ condition = true := by
  unfold insist
  split <;> simp_all

theorem readTarget_ok_bind {α β : Type} (a : α) (f : α → Except (TargetFailure Path) β) :
    (readTarget (.ok a) >>= f) = f a :=
  rfl

theorem insist_eq_error {condition : Bool} {fault : ScanError Path} {e : TargetFailure Path} :
    insist condition fault = .error e ↔ condition = false ∧ e = .scanError fault := by
  unfold insist
  cases condition <;> simp [eq_comm]

theorem nonemptyMapping_eq_true_iff {value : Value} :
    nonemptyMapping value = true ↔ ∃ entries, value = .dict entries ∧ entries ≠ [] := by
  cases value <;> simp [nonemptyMapping]

/-- A key that is found has its value. -/
theorem subscript_dict_eq_ok {entries : List (Scalar × Value)} {key : String} {value : Value} :
    (Value.dict entries).subscript key = .ok value ↔ Value.lookup? entries key = some value := by
  rw [Value.subscript]
  cases Value.lookup? entries key <;> simp

/-- Exactly a described source is loaded. -/
theorem loadSource_eq_ok_iff {fields : List (Scalar × Value)} {source : FilesystemSource} :
    loadSource host base (.dict fields) = .ok source ↔ SourceDescribed host base fields source := by
  simp only [loadSource, Loop.bind_eq_ok, readTarget_eq_ok, insist_eq_ok, Value.get_dict,
    Except.ok.injEq, exists_eq_left', decide_eq_true_eq, asStr_eq_some_iff, exists_const,
    nonemptyMapping_eq_true_iff, Value.getD]
  constructor
  · intro hloaded
    rcases hloaded with ⟨hkind, ⟨groups, hgroups, hne⟩, hroot⟩
    split at hroot
    · cases hroot
    · rename_i tree htree
      cases hroot
      exact ⟨hkind, ⟨groups, hgroups, hne, by rw [hgroups]; rfl⟩, htree, rfl⟩
  · intro hdescribed
    rcases hdescribed.mapping with ⟨groups, hgroups, hne, hmapping⟩
    refine ⟨hdescribed.kind, ⟨groups, hgroups, hne⟩, ?_⟩
    rw [hdescribed.root]
    rcases source with ⟨root, groupToTenant, system⟩
    cases hdescribed.system
    cases hmapping
    rw [hgroups]
    rfl

/-- Exactly a described backend is loaded. -/
theorem loadBackend_eq_ok_iff {fields : List (Scalar × Value)} {backend : BackendSpec} :
    loadBackend host (.dict fields) = .ok backend ↔ BackendDescribed host fields backend := by
  simp only [loadBackend, Loop.bind_eq_ok, readTarget_eq_ok, Value.get_dict, Except.ok.injEq,
    exists_eq_left']
  by_cases hqdrant : asStr (Value.field fields "kind") = some "qdrant"
  · have hkind := asStr_eq_some_iff.mp hqdrant
    rw [if_pos hqdrant]
    simp only [Loop.bind_eq_ok, readTarget_eq_ok, subscript_dict_eq_ok, Value.getD,
      Except.ok.injEq, exists_eq_left', Loop.pure_eq_ok]
    cases backend with
    | qdrant url collection =>
        simp only [BackendDescribed, hkind, BackendSpec.qdrant.injEq, true_and]
        constructor
        · intro hloaded
          rcases hloaded with ⟨value, hvalue, rfl, rfl⟩
          exact ⟨⟨value, hvalue, rfl⟩, rfl⟩
        · intro hdescribed
          rcases hdescribed with ⟨⟨value, hvalue, rfl⟩, rfl⟩
          exact ⟨value, hvalue, rfl, rfl⟩
    | pgvector dsn adminDsn => simp [BackendDescribed, hkind]
  · rw [if_neg hqdrant]
    by_cases hpgvector : asStr (Value.field fields "kind") = some "pgvector"
    · have hkind := asStr_eq_some_iff.mp hpgvector
      rw [if_pos hpgvector]
      simp only [Loop.bind_eq_ok, readTarget_eq_ok, subscript_dict_eq_ok,
        Except.ok.injEq, exists_eq_left', Loop.pure_eq_ok]
      cases backend with
      | qdrant url collection => simp [BackendDescribed, hkind]
      | pgvector dsn adminDsn =>
          simp only [BackendDescribed, hkind, BackendSpec.pgvector.injEq, true_and]
          constructor
          · intro hloaded
            rcases hloaded with ⟨value, hvalue, rfl, rfl⟩
            exact ⟨⟨value, hvalue, rfl⟩, rfl⟩
          · intro hdescribed
            rcases hdescribed with ⟨⟨value, hvalue, rfl⟩, rfl⟩
            exact ⟨value, hvalue, rfl, rfl⟩
    · rw [if_neg hpgvector]
      rw [asStr_eq_some_iff] at hqdrant hpgvector
      cases backend with
      | qdrant url collection => simp [BackendDescribed, hqdrant]
      | pgvector dsn adminDsn => simp [BackendDescribed, hpgvector]

theorem insistMapping_dict {entries inner : List (Scalar × Value)} {key : String}
    (h : Value.field entries key = .dict inner) :
    (insistMapping (.dict entries) key : Except (TargetFailure Path) Unit) = .ok () := by
  simp only [insistMapping, Value.get_dict, h]
  rfl

theorem insistMapping_refuses {entries : List (Scalar × Value)} {key : String}
    (h : ∀ inner, Value.field entries key ≠ .dict inner) :
    (insistMapping (.dict entries) key : Except (TargetFailure Path) Unit) =
      .error (.scanError (.noMapping key)) := by
  have hdict : (Value.field entries key).isDict = false := by
    rw [Bool.eq_false_iff, ne_eq, Value.isDict_eq_true_iff]
    exact fun hinner => hinner.elim h
  change insist (Value.field entries key).isDict (.noMapping key) = _
  rw [insist, hdict]
  rfl

/-- What is left of the description once its two mappings are found. -/
def loadParts (host : Host Path) (base : Path) (entries source backend : List (Scalar × Value)) :
    Except (TargetFailure Path) LoadedTarget := do
  let source ← loadSource host base (.dict source)
  let backend ← loadBackend host (.dict backend)
  return {
    source := source
    backend := backend
    enforcement := textOf host.render ((Value.lookup? entries "enforcement").getD (.str "rule"))
    annLimit := Value.field entries "ann_limit" }

/-- With both mappings the parts are loaded one after the other. -/
theorem loadTarget_of_mappings {document : Value} {entries source backend : List (Scalar × Value)}
    (hentries : document.orElse (.dict []) = .dict entries)
    (hsource : Value.field entries "source" = .dict source)
    (hbackend : Value.field entries "backend" = .dict backend) :
    loadTarget host base document = loadParts host base entries source backend := by
  have hsubscript := subscript_dict_eq_ok.mpr (Value.lookup?_of_field hsource (by simp))
  have hsubscript' := subscript_dict_eq_ok.mpr (Value.lookup?_of_field hbackend (by simp))
  simp only [loadTarget, hentries, List.forM_eq_forM, List.forM_cons, List.forM_nil,
    insistMapping, Value.get_dict, hsource, hbackend, hsubscript, hsubscript', Value.getD]
  rfl

/-- What keeps the description from having both mappings. -/
inductive MappingsRefused (Path : Type) (document : Value) : TargetFailure Path → Prop
  | notAMapping (htrue : document.truthy = true) (h : ∀ entries, document ≠ .dict entries) :
      MappingsRefused Path document (.raised (.attributeError "get"))
  | noSource {entries : List (Scalar × Value)}
      (hentries : document.orElse (.dict []) = .dict entries)
      (h : ∀ inner, Value.field entries "source" ≠ .dict inner) :
      MappingsRefused Path document (.scanError (.noMapping "source"))
  | noBackend {entries source : List (Scalar × Value)}
      (hentries : document.orElse (.dict []) = .dict entries)
      (hsource : Value.field entries "source" = .dict source)
      (h : ∀ inner, Value.field entries "backend" ≠ .dict inner) :
      MappingsRefused Path document (.scanError (.noMapping "backend"))

theorem loadTarget_of_mappingsRefused (host : Host Path) (base : Path) {document : Value}
    {e : TargetFailure Path} (h : MappingsRefused Path document e) :
    loadTarget host base document = .error e := by
  cases h with
  | notAMapping htrue h =>
      rcases Value.orElse_dict_cases document with ⟨entries, hentries⟩ | ⟨-, -, hget⟩
      · rw [Value.orElse, if_pos htrue] at hentries
        exact absurd hentries (h entries)
      · simp only [loadTarget, List.forM_eq_forM, List.forM_cons, insistMapping, hget]
        rfl
  | noSource hentries h =>
      simp only [loadTarget, hentries, List.forM_eq_forM, List.forM_cons, insistMapping_refuses h]
      rfl
  | noBackend hentries hsource h =>
      simp only [loadTarget, hentries, List.forM_eq_forM, List.forM_cons,
        insistMapping_dict hsource, insistMapping_refuses h]
      rfl

/-- Either both mappings are there or the description is refused for that. -/
theorem mappings_cases (Path : Type) (document : Value) :
    (∃ entries source backend, document.orElse (.dict []) = .dict entries ∧
      Value.field entries "source" = .dict source ∧
        Value.field entries "backend" = .dict backend) ∨
      ∃ e : TargetFailure Path, MappingsRefused Path document e := by
  rcases Value.orElse_dict_cases document with ⟨entries, hentries⟩ | ⟨htrue, hdict, -⟩
  · by_cases hsource : ∃ source, Value.field entries "source" = .dict source
    · rcases hsource with ⟨source, hsource⟩
      by_cases hbackend : ∃ backend, Value.field entries "backend" = .dict backend
      · rcases hbackend with ⟨backend, hbackend⟩
        exact Or.inl ⟨entries, source, backend, hentries, hsource, hbackend⟩
      · exact Or.inr ⟨_, .noBackend hentries hsource (not_exists.mp hbackend)⟩
    · exact Or.inr ⟨_, .noSource hentries (not_exists.mp hsource)⟩
  · exact Or.inr ⟨_, .notAMapping htrue hdict⟩

/-- A description with both mappings is not refused for one. -/
theorem MappingsRefused.not_of_mappings {document : Value} {e : TargetFailure Path}
    {entries source backend : List (Scalar × Value)} (hrefused : MappingsRefused Path document e)
    (hdocument : document = .dict entries) (hsource : Value.field entries "source" = .dict source)
    (hbackend : Value.field entries "backend" = .dict backend) : False := by
  have hentries := (Value.orElse_dict_eq_iff hsource (by simp)).mpr hdocument
  cases hrefused with
  | notAMapping htrue h => exact h entries hdocument
  | noSource hentries' h =>
      cases hentries.symm.trans hentries'
      exact h source hsource
  | noBackend hentries' _ h =>
      cases hentries.symm.trans hentries'
      exact h backend hbackend

/-- The fields are refused as a source, for the first thing that is wrong with them. -/
inductive SourceRefused (host : Host Path) (base : Path) (fields : List (Scalar × Value)) :
    ScanError Path → Prop
  | kind (h : Value.field fields "kind" ≠ .str "filesystem") :
      SourceRefused host base fields (.unknownSource (Value.field fields "kind"))
  | mapping (hkind : Value.field fields "kind" = .str "filesystem")
      (h : ∀ groups, Value.field fields "group_to_tenant" = .dict groups → groups = []) :
      SourceRefused host base fields .noGroupToTenant
  | root {groups : List (Scalar × Value)} {root : Path}
      (hkind : Value.field fields "kind" = .str "filesystem")
      (hgroups : Value.field fields "group_to_tenant" = .dict groups) (hne : groups ≠ [])
      (hroot : root = host.resolve base
        (textOf host.render ((Value.lookup? fields "root").getD (.str "."))))
      (h : host.tree? root = none) : SourceRefused host base fields (.notADirectory root)

/-- The fields are refused as a backend. -/
inductive BackendRefused (fields : List (Scalar × Value)) : TargetFailure Path → Prop
  | kind (hqdrant : Value.field fields "kind" ≠ .str "qdrant")
      (hpgvector : Value.field fields "kind" ≠ .str "pgvector") :
      BackendRefused fields (.scanError (.unknownBackend (Value.field fields "kind")))
  | baseUrl (hkind : Value.field fields "kind" = .str "qdrant")
      (h : Value.lookup? fields "base_url" = none) :
      BackendRefused fields (.raised (.keyError "base_url"))
  | dsn (hkind : Value.field fields "kind" = .str "pgvector")
      (h : Value.lookup? fields "dsn" = none) :
      BackendRefused fields (.raised (.keyError "dsn"))

/-- The description is refused: for a mapping it does not have, for its source, or, if that is
described, for its backend. -/
inductive Refused (host : Host Path) (base : Path) (document : Value) : TargetFailure Path → Prop
  | mappings {e : TargetFailure Path} (h : MappingsRefused Path document e) :
      Refused host base document e
  | source {entries source backend : List (Scalar × Value)} {fault : ScanError Path}
      (hentries : document = .dict entries) (hsource : Value.field entries "source" = .dict source)
      (hbackend : Value.field entries "backend" = .dict backend)
      (h : SourceRefused host base source fault) : Refused host base document (.scanError fault)
  | backend {entries source backend : List (Scalar × Value)} {found : FilesystemSource}
      {e : TargetFailure Path}
      (hentries : document = .dict entries) (hsource : Value.field entries "source" = .dict source)
      (hbackend : Value.field entries "backend" = .dict backend)
      (hfound : SourceDescribed host base source found) (h : BackendRefused backend e) :
      Refused host base document e

/-- A source that is not described is refused for the first thing that is wrong with it. -/
theorem loadSource_eq_error_iff {fields : List (Scalar × Value)} {e : TargetFailure Path} :
    loadSource host base (.dict fields) = .error e ↔
      ∃ fault, e = .scanError fault ∧ SourceRefused host base fields fault := by
  have hsteps : loadSource host base (.dict fields) = .error e ↔
      insist (decide (asStr (Value.field fields "kind") = some "filesystem"))
          (.unknownSource (Value.field fields "kind")) = .error e ∨
        Value.field fields "kind" = .str "filesystem" ∧
          (insist (nonemptyMapping (Value.field fields "group_to_tenant")) .noGroupToTenant =
              .error e ∨
            nonemptyMapping (Value.field fields "group_to_tenant") = true ∧
              ∃ root, root = host.resolve base
                  (textOf host.render ((Value.lookup? fields "root").getD (.str "."))) ∧
                host.tree? root = none ∧ e = .scanError (.notADirectory root)) := by
    simp only [loadSource, Value.get_dict, Value.getD, readTarget_ok_bind, Loop.bind_eq_error,
      insist_eq_ok, decide_eq_true_eq, asStr_eq_some_iff, exists_const, exists_eq_left]
    refine or_congr Iff.rfl (and_congr_right fun _ =>
      or_congr Iff.rfl (and_congr_right fun _ => ?_))
    cases host.tree? (host.resolve base
      (textOf host.render ((Value.lookup? fields "root").getD (.str ".")))) with
    | none => simp [eq_comm]
    | some tree => simp
  rw [hsteps]
  simp only [insist_eq_error, decide_eq_false_iff_not, asStr_eq_some_iff]
  constructor
  · intro hrefused
    rcases hrefused with
      ⟨hkind, rfl⟩ | ⟨hkind, ⟨hmapping, rfl⟩ | ⟨hmapping, root, hroot, htree, rfl⟩⟩
    · exact ⟨_, rfl, .kind hkind⟩
    · refine ⟨_, rfl, .mapping hkind fun groups hgroups => ?_⟩
      by_contra hne
      rw [nonemptyMapping_eq_true_iff.mpr ⟨groups, hgroups, hne⟩] at hmapping
      cases hmapping
    · rcases nonemptyMapping_eq_true_iff.mp hmapping with ⟨groups, hgroups, hne⟩
      exact ⟨_, rfl, .root hkind hgroups hne hroot htree⟩
  · intro hrefused
    rcases hrefused with ⟨fault, rfl, hfault⟩
    cases hfault with
    | kind h => exact Or.inl ⟨h, rfl⟩
    | mapping hkind h =>
        refine Or.inr ⟨hkind, Or.inl ⟨Bool.eq_false_iff.mpr fun hmapping => ?_, rfl⟩⟩
        rcases nonemptyMapping_eq_true_iff.mp hmapping with ⟨groups, hgroups, hne⟩
        exact hne (h groups hgroups)
    | root hkind hgroups hne hroot h =>
        exact Or.inr ⟨hkind, Or.inr ⟨nonemptyMapping_eq_true_iff.mpr ⟨_, hgroups, hne⟩, _, hroot, h,
          rfl⟩⟩

theorem subscript_dict_eq_error {entries : List (Scalar × Value)} {key : String}
    {e : TargetFailure Path} :
    readTarget ((Value.dict entries).subscript key) = .error e ↔
      Value.lookup? entries key = none ∧ e = .raised (.keyError key) := by
  rw [Value.subscript]
  cases Value.lookup? entries key <;> simp [readTarget, Except.mapError, eq_comm]

/-- A backend that is not described is refused for its kind or for a field that it lacks. -/
theorem loadBackend_eq_error_iff {fields : List (Scalar × Value)} {e : TargetFailure Path} :
    loadBackend host (.dict fields) = .error e ↔ BackendRefused fields e := by
  simp only [loadBackend, Value.get_dict, Value.getD, readTarget_ok_bind]
  by_cases hqdrant : asStr (Value.field fields "kind") = some "qdrant"
  · have hkind := asStr_eq_some_iff.mp hqdrant
    rw [if_pos hqdrant]
    simp only [Loop.bind_eq_error, subscript_dict_eq_error, Loop.pure_ne_error, and_false,
      exists_false, or_false]
    constructor
    · intro hrefused
      rcases hrefused with ⟨hnone, rfl⟩
      exact .baseUrl hkind hnone
    · intro hrefused
      cases hrefused with
      | kind h => exact absurd hkind h
      | baseUrl _ h => exact ⟨h, rfl⟩
      | dsn h => exact absurd (hkind.symm.trans h) (by simp)
  · rw [if_neg hqdrant]
    rw [asStr_eq_some_iff] at hqdrant
    by_cases hpgvector : asStr (Value.field fields "kind") = some "pgvector"
    · have hkind := asStr_eq_some_iff.mp hpgvector
      rw [if_pos hpgvector]
      simp only [Loop.bind_eq_error, subscript_dict_eq_error, Loop.pure_ne_error, and_false,
        exists_false, or_false]
      constructor
      · intro hrefused
        rcases hrefused with ⟨hnone, rfl⟩
        exact .dsn hkind hnone
      · intro hrefused
        cases hrefused with
        | kind _ h => exact absurd hkind h
        | baseUrl h => exact absurd h hqdrant
        | dsn _ h => exact ⟨h, rfl⟩
    · rw [if_neg hpgvector]
      rw [asStr_eq_some_iff] at hpgvector
      rw [Except.error.injEq]
      constructor
      · intro hrefused
        subst hrefused
        exact .kind hqdrant hpgvector
      · intro hrefused
        cases hrefused with
        | kind => rfl
        | baseUrl h => exact absurd h hqdrant
        | dsn h => exact absurd h hpgvector

/-- Exactly what describes a target is loaded. -/
theorem loadTarget_eq_ok_iff {document : Value} {target : LoadedTarget} :
    loadTarget host base document = .ok target ↔ Described host base document target := by
  rcases mappings_cases Path document with
    ⟨entries, source, backend, hentries, hsource, hbackend⟩ | ⟨e, hrefused⟩
  · have hdocument := (Value.orElse_dict_eq_iff hsource (by simp)).mp hentries
    rw [loadTarget_of_mappings hentries hsource hbackend]
    simp only [loadParts, Loop.bind_eq_ok, loadSource_eq_ok_iff, loadBackend_eq_ok_iff,
      Loop.pure_eq_ok]
    constructor
    · intro hloaded
      rcases hloaded with ⟨found, hfound, spec, hspec, rfl⟩
      exact ⟨entries, source, backend, hdocument, hsource, hbackend, hfound, hspec, rfl, rfl⟩
    · intro hdescribed
      rcases hdescribed with ⟨entries', source', backend', hdocument', hsource', hbackend', hfound,
        hspec, henforcement, hannLimit⟩
      cases hdocument.symm.trans hdocument'
      cases hsource.symm.trans hsource'
      cases hbackend.symm.trans hbackend'
      refine ⟨_, hfound, _, hspec, ?_⟩
      rw [← henforcement, ← hannLimit]
  · rw [loadTarget_of_mappingsRefused host base hrefused]
    refine iff_of_false (by simp) fun hdescribed => ?_
    rcases hdescribed with ⟨entries, source, backend, hdocument, hsource, hbackend, -⟩
    exact hrefused.not_of_mappings hdocument hsource hbackend

/-- What does not describe a target is refused, for the first thing that is wrong with it. -/
theorem loadTarget_eq_error_iff {document : Value} {e : TargetFailure Path} :
    loadTarget host base document = .error e ↔ Refused host base document e := by
  rcases mappings_cases Path document with
    ⟨entries, source, backend, hentries, hsource, hbackend⟩ | ⟨e', hrefused⟩
  · have hdocument := (Value.orElse_dict_eq_iff hsource (by simp)).mp hentries
    rw [loadTarget_of_mappings hentries hsource hbackend]
    simp only [loadParts, Loop.bind_eq_error, loadSource_eq_error_iff, loadSource_eq_ok_iff,
      loadBackend_eq_error_iff, Loop.pure_ne_error, and_false, exists_false, or_false]
    constructor
    · intro hrefused
      rcases hrefused with ⟨fault, rfl, hfault⟩ | ⟨found, hfound, he⟩
      · exact .source hdocument hsource hbackend hfault
      · exact .backend hdocument hsource hbackend hfound he
    · intro hrefused
      cases hrefused with
      | mappings h => exact (h.not_of_mappings hdocument hsource hbackend).elim
      | source hdocument' hsource' hbackend' h =>
          cases hdocument.symm.trans hdocument'
          cases hsource.symm.trans hsource'
          exact Or.inl ⟨_, rfl, h⟩
      | backend hdocument' hsource' hbackend' hfound h =>
          cases hdocument.symm.trans hdocument'
          cases hsource.symm.trans hsource'
          cases hbackend.symm.trans hbackend'
          exact Or.inr ⟨_, hfound, h⟩
  · rw [loadTarget_of_mappingsRefused host base hrefused]
    constructor
    · intro he
      cases he
      exact .mappings hrefused
    · intro hother
      cases hother with
      | mappings h =>
          exact (loadTarget_of_mappingsRefused host base hrefused).symm.trans
            (loadTarget_of_mappingsRefused host base h)
      | source hdocument hsource hbackend _ =>
          exact (hrefused.not_of_mappings hdocument hsource hbackend).elim
      | backend hdocument hsource hbackend _ _ =>
          exact (hrefused.not_of_mappings hdocument hsource hbackend).elim

/-- A description is either loaded as the target that it describes or refused for the first thing
that is wrong with it: a mapping that it lacks, then its source, then its backend. -/
theorem loadTarget_spec (host : Host Path) (base : Path) (document : Value) :
    (∀ target, loadTarget host base document = .ok target ↔ Described host base document target) ∧
      ∀ e, loadTarget host base document = .error e ↔ Refused host base document e :=
  ⟨fun _ => loadTarget_eq_ok_iff, fun _ => loadTarget_eq_error_iff⟩

end Described

end Tearline
