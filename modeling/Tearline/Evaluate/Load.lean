import Tearline.Library.Dict
import Tearline.Library.Layers
import Tearline.Loading

/-!
# Reading expectation files

An expectation file may name another that it inherits from.  Reading it reads the other one
first and then assigns the file's own keys: a list is added to an inherited list, and anything
else takes the place of what is inherited.  A key left empty is such a thing.

Main results:

- Theorem {lit}`load_of_chain`: what is read from a chain of files.
- Theorem {lit}`load_layered`: what is read under a key that lists entries.
- Theorem {lit}`inherited_kept_iff`: when no inherited entry is lost.
-/

namespace Tearline

namespace Evaluate

/-- The keys and values of an expectation file. -/
abbrev Mapping := Dict Scalar Value

/-- How reading an expectation file fails. -/
inductive LoadFailure
  /-- The text of a file is no document. -/
  | yamlError
  /-- An operation on a document raises. -/
  | raised (e : Value.Error)
  /-- The files inherit from one another beyond the permitted depth. -/
  | recursionError
deriving DecidableEq, Repr

/-- The files and the functions of other packages by which they are read. -/
structure Files (Path : Type) where
  /-- `path.read_text()` of a path that exists. -/
  text? : Path → Option String
  /-- `yaml.safe_load(text)` of a text that is a document. -/
  safeLoad? : String → Option Value
  /-- `(path.parent / name).resolve()` -/
  resolve : Path → String → Path
  /-- `str(value)` of a value that is not a text. -/
  render : Value → String

/-! ## Reading one file -/

/-- The key under which a file names the one it inherits from. -/
def inheritsKey : String :=
  "inherits"

/-- A mapping with its keys in order. -/
def mappingOf (entries : List (Scalar × Value)) : Mapping :=
  (entries.map fun e => (⟨e.1, e.2⟩ : Sigma fun _ : Scalar => Value)).toAList

/-- What a file names under that key, or the null. -/
def inheritsOf (raw : Mapping) : Value :=
  (raw.get? (.str inheritsKey)).getD .null

/-- What `raw.pop("inherits", None)` returns and leaves. -/
def popInherits : Value → Except LoadFailure (Value × Mapping)
  | .dict entries => .ok (inheritsOf (mappingOf entries), (mappingOf entries).del (.str inheritsKey))
  | .list _ => .error (.raised .typeError)
  | .scalar _ => .error (.raised (.attributeError "pop"))

/-- A key of a mapping is looked up among its entries. -/
theorem get?_mappingOf (entries : List (Scalar × Value)) (key : String) :
    (mappingOf entries).get? (.str key) = Value.lookup? entries key := by
  rw [mappingOf, Dict.get?, AList.lookup_to_alist]
  induction entries with
  | nil => rfl
  | cons entry entries ih =>
      rw [List.map_cons, Value.lookup?, List.find?_cons]
      by_cases hkey : entry.1 = .str key
      · rw [hkey, List.dlookup_cons_eq]
        simp
      · rw [List.dlookup_cons_ne _ _ (Ne.symm hkey), ih, Value.lookup?]
        simp [hkey]

/-- The value a key has after the loop over `raw.items()` has assigned it. -/
def mergedValue (inherited : Option Value) (value : Value) : Value :=
  match value, inherited with
  | .list entries, some (.list older) => .list (older ++ entries)
  | value, _ => value

/-- The loop over `raw.items()`. -/
def merge (inherited raw : Mapping) : Mapping :=
  raw.entries.foldl
    (fun merged item => merged.set item.1 (mergedValue (inherited.get? item.1) item.2)) inherited

/-- `_load(path)`, within a depth of recursion. -/
def Files.load {Path : Type} (files : Files Path) : ℕ → Path → Except LoadFailure Mapping
  | 0, _ => .error .recursionError
  | depth + 1, path =>
      match files.text? path with
      | none => .ok ∅
      | some text =>
          match files.safeLoad? text with
          | none => .error .yamlError
          | some document => do
              let (parent, raw) ← popInherits (document.orElse (.dict []))
              if parent.truthy then
                let inherited ← files.load depth (files.resolve path (textOf files.render parent))
                return merge inherited raw
              else
                return raw

/-! ## Chains of files -/

section Chains

variable {Path : Type} {files : Files Path} {path : Path}

/-- The file is present and states the keys and values. -/
def Files.States (files : Files Path) (path : Path) (raw : Mapping) : Prop :=
  ∃ text document entries, files.text? path = some text ∧
    files.safeLoad? text = some document ∧
      document.orElse (.dict []) = .dict entries ∧ mappingOf entries = raw

/-- The file another one inherits from. -/
def Files.parent (files : Files Path) (path : Path) (raw : Mapping) : Path :=
  files.resolve path (textOf files.render (inheritsOf raw))

/-- What a file and the files it inherits from in turn state, up to one that inherits from no
other. -/
inductive Files.Chain (files : Files Path) : Path → List Mapping → Prop
  | last {path : Path} {raw : Mapping} (hstates : files.States path raw)
      (hlast : ¬ (inheritsOf raw).truthy = true) : Chain files path [raw]
  | link {path : Path} {raw : Mapping} {raws : List Mapping} (hstates : files.States path raw)
      (hlink : (inheritsOf raw).truthy = true)
      (hchain : Chain files (files.parent path raw) raws) : Chain files path (raw :: raws)

/-- What is read from files that inherit from one another, the heir first. -/
def inheritance : List Mapping → Mapping
  | [] => ∅
  | [raw] => raw.del (.str inheritsKey)
  | raw :: raws => merge (inheritance raws) (raw.del (.str inheritsKey))

/-- A file that is present is read and the key under which it names another is taken out. -/
theorem load_succ_of_states {raw : Mapping} (hstates : files.States path raw) (depth : ℕ) :
    files.load (depth + 1) path =
      if (inheritsOf raw).truthy then
        (files.load depth (files.parent path raw)).map fun inherited =>
          merge inherited (raw.del (.str inheritsKey))
      else .ok (raw.del (.str inheritsKey)) := by
  rcases hstates with ⟨text, document, entries, htext, hdocument, hentries, rfl⟩
  simp only [Files.load, htext, hdocument, hentries, popInherits, Files.parent, bind, Except.bind]
  split
  · generalize files.load depth _ = inherited
    cases inherited with
    | error e => rfl
    | ok inherited => rfl
  · rfl

/-- What is read from a chain of files, at every depth that reaches its end. -/
theorem load_of_chain {raws : List Mapping} (hchain : files.Chain path raws) {depth : ℕ}
    (hdepth : raws.length ≤ depth) : files.load depth path = .ok (inheritance raws) := by
  induction hchain generalizing depth with
  | last hstates hlast =>
      cases depth with
      | zero => simp at hdepth
      | succ depth => rw [load_succ_of_states hstates, if_neg hlast, inheritance]
  | @link path raw raws hstates hlink hchain ih =>
      cases depth with
      | zero => simp at hdepth
      | succ depth =>
          have hrest := ih (Nat.le_of_succ_le_succ hdepth)
          rw [load_succ_of_states hstates, if_pos hlink, hrest, inheritance]
          · rfl
          · cases hchain <;> exact List.cons_ne_nil _ _

/-! ## What is read under a key -/

/-- A value assigned where nothing is inherited is left as it is. -/
@[simp]
theorem mergedValue_none (value : Value) : mergedValue none value = value := by
  cases value <;> rfl

/-- After the merge a key that the file states has the value made of it and of the inherited
one, and any other key the inherited one. -/
theorem get?_merge (inherited raw : Mapping) (key : Scalar) :
    (merge inherited raw).get? key =
      ((raw.get? key).map (mergedValue (inherited.get? key))).or (inherited.get? key) :=
  Dict.get?_foldl_set (fun key => mergedValue (inherited.get? key)) inherited raw key

/-- The same for one more heir of a chain. -/
theorem get?_inheritance_cons {key : String} (hkey : key ≠ inheritsKey) (raw : Mapping)
    (raws : List Mapping) :
    (inheritance (raw :: raws)).get? (.str key) =
      ((raw.get? (.str key)).map (mergedValue ((inheritance raws).get? (.str key)))).or
        ((inheritance raws).get? (.str key)) := by
  have hne : Scalar.str key ≠ .str inheritsKey := fun h => hkey (Scalar.str.inj h)
  have hraw := raw.get?_del_of_ne hne
  cases raws with
  | nil => cases hvalue : raw.get? (.str key) <;> simp [inheritance, hraw, hvalue]
  | cons parent raws =>
      rw [inheritance, get?_merge, hraw]
      exact List.cons_ne_nil parent raws

/-- The name of the inherited file is not read. -/
theorem get?_inheritance_inheritsKey (raws : List Mapping) :
    (inheritance raws).get? (.str inheritsKey) = none := by
  induction raws with
  | nil => exact Dict.get?_empty _
  | cons raw raws ih =>
      cases raws with
      | nil => exact Dict.get?_del_self raw _
      | cons parent raws =>
          rw [inheritance, get?_merge, Dict.get?_del_self, ih]
          · rfl
          · exact List.cons_ne_nil parent raws

/-- What a file says of a key, as a layer over those it inherits from. -/
def layerAt (key : String) (raw : Mapping) : Layer Value :=
  match raw.get? (.str key) with
  | none => .absent
  | some (.list entries) => .items entries
  | some _ => .blank

/-- The file states nothing under the key, an empty value or a list. -/
def StatesEntries (key : String) (raw : Mapping) : Prop :=
  ∀ value, raw.get? (.str key) = some value → value = .null ∨ ∃ entries, value = .list entries

/-- A setting as the value of a key. -/
def settingValue : Option (List Value) → Value
  | none => .null
  | some entries => .list entries

/-- One more heir that states nothing, an empty value or a list is one more layer. -/
theorem setting_cons {key : String} (hkey : key ≠ inheritsKey) {raw : Mapping}
    (hraw : StatesEntries key raw) {raws : List Mapping} {setting : Option (List Value)}
    (hraws : (inheritance raws).get? (.str key) = some (settingValue setting)) :
    (inheritance (raw :: raws)).get? (.str key) =
      some (settingValue (Layers.apply (layerAt key raw) setting)) := by
  rw [get?_inheritance_cons hkey, hraws, layerAt]
  cases hvalue : raw.get? (.str key) with
  | none => rfl
  | some value =>
      rcases hraw value hvalue with rfl | ⟨entries, rfl⟩
      · cases setting <;> rfl
      · cases setting <;> rfl

/-- So the heirs of a file that states a list are layers over that list. -/
theorem setting_append {key : String} (hkey : key ≠ inheritsKey) {heirs raws : List Mapping}
    (hheirs : ∀ raw ∈ heirs, StatesEntries key raw) {base : List Value}
    (hbase : (inheritance raws).get? (.str key) = some (.list base)) :
    (inheritance (heirs ++ raws)).get? (.str key) =
      some (settingValue (Layers.run base (heirs.map (layerAt key)))) := by
  induction heirs with
  | nil => exact hbase
  | cons raw heirs ih =>
      rw [List.forall_mem_cons] at hheirs
      exact setting_cons hkey hheirs.1 (ih hheirs.2)

/-- A list that a file states ends what is read for its key from the file on. -/
theorem exists_base {key : String} (hkey : key ≠ inheritsKey) {raw : Mapping}
    {entries : List Value} (hentries : raw.get? (.str key) = some (.list entries))
    (raws : List Mapping) :
    ∃ older, (inheritance (raw :: raws)).get? (.str key) = some (.list (older ++ entries)) := by
  rw [get?_inheritance_cons hkey, hentries]
  cases hinherited : (inheritance raws).get? (.str key) with
  | none => exact ⟨[], rfl⟩
  | some inherited =>
      cases inherited with
      | list older => exact ⟨older, rfl⟩
      | scalar s => exact ⟨[], rfl⟩
      | dict pairs => exact ⟨[], rfl⟩

/-- From a chain of files whose eldest lists entries and whose heirs state nothing, an empty value
or a list for a key, what is read under it is what the heirs as layers leave of these entries. -/
theorem load_layered {heirs : List Mapping} {eldest : Mapping}
    (hchain : files.Chain path (heirs ++ [eldest])) {key : String} (hkey : key ≠ inheritsKey)
    {base : List Value} (hbase : eldest.get? (.str key) = some (.list base))
    (hheirs : ∀ raw ∈ heirs, StatesEntries key raw) {depth : ℕ} (hdepth : heirs.length < depth) :
    ∃ loaded left, files.load depth path = .ok loaded ∧
      loaded.get? (.str key) = some (settingValue left) ∧
      Layers.Leaves base (heirs.map (layerAt key)) left := by
  have heldest : (inheritance [eldest]).get? (.str key) = some (.list base) := by
    rw [inheritance, Dict.get?_del_of_ne _ fun h => hkey (Scalar.str.inj h)]
    exact hbase
  have hlength : (heirs ++ [eldest]).length ≤ depth := by
    rw [List.length_append]
    exact hdepth
  exact ⟨inheritance (heirs ++ [eldest]), _, load_of_chain hchain hlength,
    setting_append hkey hheirs heldest, Layers.leaves_run base (heirs.map (layerAt key))⟩

/-! ## Inherited entries -/

/-- At every sufficient depth a mapping is read that lists the entries, in this order, under
the key. -/
def Files.Keeps (files : Files Path) (path : Path) (key : String) (entries : List Value) : Prop :=
  ∃ loaded values, (∃ bound, ∀ depth, bound ≤ depth → files.load depth path = .ok loaded) ∧
    loaded.get? (.str key) = some (.list values) ∧ entries.Sublist values

/-- A chain of files keeps what its inheritance lists. -/
theorem keeps_iff_of_chain {raws : List Mapping} (hchain : files.Chain path raws) (key : String)
    (entries : List Value) :
    files.Keeps path key entries ↔
      ∃ values, (inheritance raws).get? (.str key) = some (.list values) ∧
        entries.Sublist values := by
  constructor
  · intro hkeeps
    rcases hkeeps with ⟨loaded, values, ⟨bound, hload⟩, hvalues⟩
    have hloaded := hload (max bound raws.length) (Nat.le_max_left _ _)
    rw [load_of_chain hchain (Nat.le_max_right _ _)] at hloaded
    rw [Except.ok.inj hloaded]
    exact ⟨values, hvalues⟩
  · intro hkeeps
    rcases hkeeps with ⟨values, hvalues⟩
    exact ⟨inheritance raws, values, ⟨raws.length, fun depth => load_of_chain hchain⟩, hvalues⟩

/-- A setting lists entries in order exactly when it is a list and holds them. -/
theorem settingValue_keeps_iff (setting : Option (List Value)) (entries : List Value) :
    (∃ values, some (settingValue setting) = some (.list values) ∧ entries.Sublist values) ↔
      setting.isSome ∧ entries.Sublist (setting.getD []) := by
  cases setting with
  | none => simp [settingValue]
  | some values => simp [settingValue]

/-- In a chain of files whose heirs state nothing, an empty value or a list for a key, the
entries that a file lists are kept, before those that its heirs list, exactly when the key is
not the one that names the inherited file, no heir leaves the key empty over any entries, and
over every heir that leaves it empty another one lists entries again. -/
theorem inherited_kept_iff {heirs elders : List Mapping} {raw : Mapping}
    (hchain : files.Chain path (heirs ++ raw :: elders)) {key : String} {entries : List Value}
    (hentries : raw.get? (.str key) = some (.list entries))
    (hheirs : ∀ heir ∈ heirs, StatesEntries key heir) :
    files.Keeps path key (entries ++ Layers.joined (heirs.map (layerAt key))) ↔
      key ≠ inheritsKey ∧ Layers.Restated (heirs.map (layerAt key)) ∧
        Layers.Unspoilt entries (heirs.map (layerAt key)) := by
  rw [keeps_iff_of_chain hchain]
  by_cases hkey : key = inheritsKey
  · subst hkey
    rw [get?_inheritance_inheritsKey]
    simp
  · rcases exists_base hkey hentries elders with ⟨older, hbase⟩
    rw [setting_append hkey hheirs hbase, settingValue_keeps_iff, Layers.isSome_run_iff,
      Layers.sublist_run_iff]
    simp [hkey]

end Chains

/-! ## A negative set left empty -/

/-- The file of the clean variant. -/
def cleanText : String :=
  "must_not_flag: [c-0041]"

/-- The file of a variant that inherits it and leaves the set empty. -/
def emptiedText : String :=
  "inherits: ../clean/expected-clean.yaml\nmust_not_flag:"

/-- The file of a variant that inherits it and adds to the set. -/
def extendedText : String :=
  "inherits: ../clean/expected-clean.yaml\nmust_not_flag: [c-0042]"

/-- The entries of a file that inherits from the clean variant. -/
def heirEntries (negative : Value) : List (Scalar × Value) :=
  [(.str "inherits", .str "../clean/expected-clean.yaml"), (.str "must_not_flag", negative)]

/-- The entries of the file of the clean variant. -/
def cleanEntries : List (Scalar × Value) :=
  [(.str "must_not_flag", .list [.str "c-0041"])]

/-- A scenario with the three variants. -/
def scenarioFiles : Files String where
  text? path :=
    if path = "clean/expected-clean.yaml" then some cleanText
    else if path = "faulted/expected-clean.yaml" then some emptiedText
    else if path = "faulted-naive/expected-clean.yaml" then some extendedText
    else none
  safeLoad? text :=
    if text = cleanText then some (.dict cleanEntries)
    else if text = emptiedText then some (.dict (heirEntries .null))
    else if text = extendedText then some (.dict (heirEntries (.list [.str "c-0042"])))
    else none
  resolve path name :=
    if name = "../clean/expected-clean.yaml" then "clean/expected-clean.yaml" else path
  render _ := ""

theorem clean_states :
    scenarioFiles.States "clean/expected-clean.yaml" (mappingOf cleanEntries) :=
  ⟨cleanText, .dict cleanEntries, cleanEntries, rfl, rfl, rfl, rfl⟩

theorem clean_chain :
    scenarioFiles.Chain "clean/expected-clean.yaml" [mappingOf cleanEntries] :=
  .last clean_states Bool.false_ne_true

theorem emptied_chain :
    scenarioFiles.Chain "faulted/expected-clean.yaml"
      [mappingOf (heirEntries .null), mappingOf cleanEntries] :=
  .link ⟨emptiedText, .dict (heirEntries .null), heirEntries .null, rfl, rfl, rfl, rfl⟩ rfl
    clean_chain

theorem extended_chain :
    scenarioFiles.Chain "faulted-naive/expected-clean.yaml"
      [mappingOf (heirEntries (.list [.str "c-0042"])), mappingOf cleanEntries] :=
  .link ⟨extendedText, .dict (heirEntries (.list [.str "c-0042"])),
    heirEntries (.list [.str "c-0042"]), rfl, rfl, rfl, rfl⟩ rfl clean_chain

/-- Under the empty set no entry of the clean variant is left. -/
theorem emptied_loses :
    scenarioFiles.Chain "faulted/expected-clean.yaml"
        [mappingOf (heirEntries .null), mappingOf cleanEntries] ∧
      (mappingOf cleanEntries).get? (.str "must_not_flag") = some (.list [.str "c-0041"]) ∧
      (mappingOf (heirEntries .null)).get? (.str "must_not_flag") = some .null ∧
      ¬ scenarioFiles.Keeps "faulted/expected-clean.yaml" "must_not_flag" [.str "c-0041"] := by
  refine ⟨emptied_chain, rfl, rfl, ?_⟩
  rw [keeps_iff_of_chain emptied_chain]
  intro hkept
  rcases hkept with ⟨values, hvalues, -⟩
  cases hvalues

theorem inherited_kept_iff_extended :
    scenarioFiles.Keeps "faulted-naive/expected-clean.yaml" "must_not_flag"
        [.str "c-0041", .str "c-0042"] ↔
      "must_not_flag" ≠ inheritsKey ∧ Layers.Restated [Layer.items [Value.str "c-0042"]] ∧
        Layers.Unspoilt [Value.str "c-0041"] [Layer.items [Value.str "c-0042"]] := by
  have hheirs : ∀ heir ∈ [mappingOf (heirEntries (.list [.str "c-0042"]))],
      StatesEntries "must_not_flag" heir := by
    intro heir hheir value hvalue
    rw [List.mem_singleton.mp hheir] at hvalue
    exact Or.inr ⟨[.str "c-0042"], (Option.some.inj hvalue).symm⟩
  exact @inherited_kept_iff _ _ _ [_] [] _ extended_chain _ _ rfl hheirs

theorem load_layered_extended :
    ∃ loaded left, scenarioFiles.load 2 "faulted-naive/expected-clean.yaml" = .ok loaded ∧
      loaded.get? (.str "must_not_flag") = some (settingValue left) ∧
      Layers.Leaves [.str "c-0041"] [Layer.items [Value.str "c-0042"]] left := by
  have hheirs : ∀ heir ∈ [mappingOf (heirEntries (.list [.str "c-0042"]))],
      StatesEntries "must_not_flag" heir := by
    intro heir hheir value hvalue
    rw [List.mem_singleton.mp hheir] at hvalue
    exact Or.inr ⟨[.str "c-0042"], (Option.some.inj hvalue).symm⟩
  exact @load_layered _ _ _ [_] _ extended_chain _ (by decide) _ rfl hheirs 2 (by decide)

end Evaluate

end Tearline
