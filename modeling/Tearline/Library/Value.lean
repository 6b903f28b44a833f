import Mathlib.Data.Finset.Dedup
import Mathlib.Data.Finset.Sort
import Mathlib.Data.String.Basic

/-!
# Loaded documents

A loader turns a document into a tree of scalars, lists and mappings whose keys are scalars.
The functions here are what a dynamically typed program does with such a tree: test it for
truth, look a key up, iterate over it.  Iteration does not ask what it iterates over: it runs
through the characters of a text and through the keys of a mapping.

Main results:

- Theorem {lit}`Value.iterate_str`: a text is iterated over character by character.
- Theorem {lit}`Value.readsWhole_iff`: when iteration gives whole texts or list items.
-/

/-! ## Trees -/

/-- A scalar; a float is its bit pattern. -/
inductive Scalar
  | null
  | bool (b : Bool)
  | int (n : Int)
  | float (bits : BitVec 64)
  | str (text : String)
  | date (day : Int)
  | datetime (reading : Int) (zoned : Bool)
deriving DecidableEq, Repr

/-- A loaded document. -/
inductive Value
  | scalar (s : Scalar)
  | list (items : List Value)
  | dict (entries : List (Scalar × Value))

/-- Whether a scalar counts as true; the sign of a float does not count. -/
def Scalar.truthy : Scalar → Bool
  | .null => false
  | .bool b => b
  | .int n => decide (n ≠ 0)
  | .float bits => decide (bits.setWidth 63 ≠ 0)
  | .str text => decide (text ≠ "")
  | .date _ => true
  | .datetime _ _ => true

/-- The whole number a float is equal to, if it is equal to one. -/
def floatInt? (bits : BitVec 64) : Option Int :=
  let exponent := (bits.extractLsb' 52 11).toNat
  let fraction := (bits.extractLsb' 0 52).toNat
  -- the magnitude is the mantissa times two to the power of the scale less 1075
  let scale := max exponent 1
  let mantissa := if exponent = 0 then fraction else fraction + 2 ^ 52
  let magnitude? : Option Nat :=
    if exponent = 2047 then none
    else if 1075 ≤ scale then some (mantissa * 2 ^ (scale - 1075))
    else if mantissa % 2 ^ (1075 - scale) = 0 then some (mantissa / 2 ^ (1075 - scale))
    else none
  magnitude?.map fun magnitude => if bits.msb then -(magnitude : Int) else magnitude

/-- The whole number a scalar is equal to, if it is equal to one. -/
def Scalar.int? : Scalar → Option Int
  | .bool b => some (if b then 1 else 0)
  | .int n => some n
  | .float bits => floatInt? bits
  | _ => none

/-- Whether `<` compares a scalar with another. -/
def Scalar.comparable : Scalar → Scalar → Bool
  | .str _, .str _ => true
  | .date _, .date _ => true
  | .datetime _ zoned, .datetime _ zoned' => decide (zoned = zoned')
  | .null, _ | .str _, _ | .date _, _ | .datetime _ _, _ => false
  | .bool _, b | .int _, b | .float _, b =>
      match b with
      | .bool _ | .int _ | .float _ => true
      | _ => false

namespace Value

/-- The value that stands for no value. -/
abbrev null : Value :=
  scalar .null

/-- A text. -/
abbrev str (text : String) : Value :=
  scalar (.str text)

/-- Texts, as values. -/
def strs (texts : List String) : List Value :=
  texts.map str

/-- A set of texts in order, `sorted(texts)`. -/
def sortedTexts (texts : Finset String) : List String :=
  texts.sort fun a b => a ≤ b

@[simp]
theorem sortedTexts_toFinset (texts : Finset String) : (sortedTexts texts).toFinset = texts :=
  Finset.sort_toFinset texts fun a b => a ≤ b

/-! ## Operations -/

/-- The exceptions of the operations. -/
inductive Error
  /-- An operation on a value of a type that does not have it. -/
  | typeError
  /-- A mapping subscripted with a key it does not hold. -/
  | keyError (key : String)
  /-- A method called on a value of a type that does not have it. -/
  | attributeError (method : String)
deriving DecidableEq, Repr

/-- Whether a value counts as true. -/
def truthy : Value → Bool
  | scalar s => s.truthy
  | list items => !items.isEmpty
  | dict entries => !entries.isEmpty

/-- The value if it counts as true, and the other one if not. -/
def orElse (v other : Value) : Value :=
  if v.truthy then v else other

/-- Whether a value can be a member of a set; lists and mappings cannot. -/
def hashable : Value → Bool
  | scalar _ => true
  | list _ => false
  | dict _ => false

/-- `v is None` -/
def isNull : Value → Bool
  | scalar s => decide (s = .null)
  | list _ => false
  | dict _ => false

/-- `isinstance(v, dict)` -/
def isDict : Value → Bool
  | scalar _ => false
  | list _ => false
  | dict _ => true

/-- The value of a key, when a mapping holds it. -/
def lookup? (entries : List (Scalar × Value)) (key : String) : Option Value :=
  (entries.find? fun e => decide (e.1 = .str key)).map Prod.snd

/-- The value of a key, or the null. -/
def field (entries : List (Scalar × Value)) (key : String) : Value :=
  (lookup? entries key).getD null

/-- `v.get(key, default)` -/
def getD (v : Value) (key : String) (default : Value) : Except Error Value :=
  match v with
  | dict entries => .ok ((lookup? entries key).getD default)
  | _ => .error (.attributeError "get")

/-- `v.get(key)` -/
def get (v : Value) (key : String) : Except Error Value :=
  v.getD key null

/-- `v[key]` -/
def subscript (v : Value) (key : String) : Except Error Value :=
  match v with
  | dict entries =>
      match lookup? entries key with
      | none => .error (.keyError key)
      | some value => .ok value
  | _ => .error .typeError

/-- What a loop over a value runs through. -/
def iterate : Value → Except Error (List Value)
  | scalar (.str text) => .ok (strs (text.toList.map String.singleton))
  | scalar _ => .error .typeError
  | list items => .ok items
  | dict entries => .ok (entries.map fun e => scalar e.1)

/-- `len(v)` -/
def len : Value → Except Error Nat
  | scalar (.str text) => .ok text.length
  | scalar _ => .error .typeError
  | list items => .ok items.length
  | dict entries => .ok entries.length

/-- The elements of `frozenset(v)`, with repetitions. -/
def elements (v : Value) : Except Error (List Value) := do
  let items ← v.iterate
  if items.all hashable then return items else throw .typeError

/-- Whether `<` compares a value that a set can hold with another. -/
def comparable : Value → Value → Bool
  | scalar s, scalar t => s.comparable t
  | _, _ => false

/-- What a sort of values that a set can hold needs: any two of them are compared. -/
def sortable (items : List Value) : Bool :=
  decide (items.Pairwise fun v w => v.comparable w = true)

/-- The value of a key, when the value is a mapping that holds it. -/
def stated? : Value → String → Option Value
  | dict entries, key => lookup? entries key
  | _, _ => none

theorem hashable_of_isNull {v : Value} (h : v.isNull = true) : v.hashable = true := by
  cases v with
  | scalar s => rfl
  | list items => cases h
  | dict entries => cases h

theorem isDict_eq_true_iff {v : Value} : v.isDict = true ↔ ∃ entries, v = dict entries := by
  cases v <;> simp [isDict]

@[simp]
theorem get_dict (entries : List (Scalar × Value)) (key : String) :
    (dict entries).get key = .ok (field entries key) :=
  rfl

/-- Only a mapping has a key whose value is a mapping. -/
theorem get_orElse_eq_dict {v : Value} {key : String} {inner : List (Scalar × Value)}
    (h : (v.orElse (dict [])).get key = .ok (dict inner)) :
    ∃ entries, v = dict entries ∧ field entries key = dict inner := by
  by_cases htrue : v.truthy = true
  · rw [orElse, if_pos htrue] at h
    cases v with
    | scalar s => cases h
    | list items => cases h
    | dict entries => exact ⟨entries, rfl, Except.ok.inj h⟩
  · rw [orElse, if_neg htrue] at h
    cases h

/-- A mapping and what it is replaced by if it is empty hold the same. -/
theorem getD_orElse_dict (entries : List (Scalar × Value)) (key : String) (default : Value) :
    ((dict entries).orElse (dict [])).getD key default = (dict entries).getD key default := by
  cases entries with
  | nil => rfl
  | cons entry entries => rfl

/-- A mapping that holds a key counts as true, so that it is what it is replaced by if it does
not. -/
theorem orElse_dict_eq_iff {v value : Value} {entries : List (Scalar × Value)} {key : String}
    (hfield : field entries key = value) (hvalue : value ≠ null) :
    v.orElse (dict []) = dict entries ↔ v = dict entries := by
  have hne : entries ≠ [] := by
    intro hempty
    subst hempty
    exact hvalue hfield.symm
  by_cases htrue : v.truthy = true
  · rw [orElse, if_pos htrue]
  · rw [orElse, if_neg htrue]
    constructor
    · intro hempty
      cases hempty
      exact absurd rfl hne
    · intro hv
      subst hv
      cases entries with
      | nil => exact absurd rfl hne
      | cons entry entries => exact absurd rfl htrue

/-- What stands for an empty mapping or is none fails to be asked for a key. -/
theorem orElse_dict_cases (v : Value) :
    (∃ entries, v.orElse (dict []) = dict entries) ∨
      v.truthy = true ∧ (∀ entries, v ≠ dict entries) ∧
        ∀ key, (v.orElse (dict [])).get key = .error (.attributeError "get") := by
  by_cases htrue : v.truthy = true
  · rw [orElse, if_pos htrue]
    cases v with
    | scalar s => exact Or.inr ⟨htrue, by simp, fun _ => rfl⟩
    | list items => exact Or.inr ⟨htrue, by simp, fun _ => rfl⟩
    | dict entries => exact Or.inl ⟨entries, rfl⟩
  · rw [orElse, if_neg htrue]
    exact Or.inl ⟨[], rfl⟩

/-- A key whose value is not the null is found. -/
theorem lookup?_of_field {entries : List (Scalar × Value)} {key : String} {value : Value}
    (h : field entries key = value) (hvalue : value ≠ null) :
    lookup? entries key = some value := by
  rw [field] at h
  cases hlookup : lookup? entries key with
  | none => exact absurd (by rw [← h, hlookup]; rfl) hvalue
  | some found =>
      rw [hlookup, Option.getD_some] at h
      rw [h]

/-- The value under a key of a mapping that holds it, or the null. -/
def entry : Value → String → Value
  | dict entries, key => field entries key
  | _, _ => null

theorem get_eq_ok {v value : Value} {key : String} (h : v.get key = .ok value) :
    v.entry key = value := by
  cases v with
  | scalar s => cases h
  | list items => cases h
  | dict entries => exact Except.ok.inj h

theorem subscript_eq_ok {v value : Value} {key : String} (h : v.subscript key = .ok value) :
    v.entry key = value := by
  cases v with
  | scalar s => cases h
  | list items => cases h
  | dict entries =>
      rw [subscript] at h
      rw [entry, field]
      cases hlookup : lookup? entries key with
      | none => simp [hlookup] at h
      | some found => simpa [hlookup] using h

/-- Only a mapping has a key that is subscripted. -/
theorem dict_of_subscript {v value : Value} {key : String} (h : v.subscript key = .ok value) :
    ∃ entries, v = dict entries := by
  cases v with
  | scalar s => cases h
  | list items => cases h
  | dict entries => exact ⟨entries, rfl⟩

/-- A text that is the value of a key is found under it. -/
theorem subscript_of_entry {v : Value} {key text : String} (h : v.entry key = str text) :
    v.subscript key = .ok (str text) := by
  cases v with
  | scalar s => cases h
  | list items => cases h
  | dict entries =>
      rw [entry, field] at h
      rw [subscript]
      cases hlookup : lookup? entries key with
      | none => simp [hlookup] at h
      | some found => simpa [hlookup] using h

theorem entry_orElse_dict (v : Value) (key : String) :
    (v.orElse (dict [])).entry key = v.entry key := by
  by_cases htrue : v.truthy = true
  · rw [orElse, if_pos htrue]
  · rw [orElse, if_neg htrue]
    cases v with
    | scalar s => rfl
    | list items => rfl
    | dict entries =>
        cases entries with
        | nil => rfl
        | cons entry entries => exact absurd rfl htrue

/-- What goes into a set has been iterated over. -/
theorem iterate_of_elements {v : Value} {items : List Value} (h : v.elements = .ok items) :
    v.iterate = .ok items := by
  rw [elements] at h
  cases hiterate : v.iterate with
  | error e => simp [hiterate, bind, Except.bind] at h
  | ok found =>
      simp only [hiterate, bind, Except.bind] at h
      split at h
      · exact h
      · cases h

/-- A value that counts as true has something to iterate over. -/
theorem iterate_ne_nil {v : Value} (htrue : v.truthy = true) : v.iterate ≠ .ok [] := by
  intro hnil
  cases v with
  | scalar s =>
      cases s with
      | str text =>
          rw [iterate, Except.ok.injEq, strs, List.map_eq_nil_iff, List.map_eq_nil_iff,
            String.toList_eq_nil_iff] at hnil
          simp [truthy, Scalar.truthy, hnil] at htrue
      | _ => cases hnil
  | list items =>
      rw [iterate, Except.ok.injEq] at hnil
      simp [truthy, hnil] at htrue
  | dict entries =>
      rw [iterate, Except.ok.injEq, List.map_eq_nil_iff] at hnil
      simp [truthy, hnil] at htrue

/-- What is iterated over is as long as the value. -/
theorem len_of_iterate {v : Value} {items : List Value} (h : v.iterate = .ok items) :
    v.len = .ok items.length := by
  cases v with
  | scalar s =>
      cases s with
      | str text =>
          rw [← Except.ok.inj h, len, strs, List.length_map, List.length_map, String.length_toList]
      | _ => cases h
  | list entries => rw [← Except.ok.inj h, len]
  | dict entries => rw [← Except.ok.inj h, len, List.length_map]

/-! ## Entries that may be left out -/

/-- The entry of a key that has a value, and no entry of one that has none. -/
def entryOf (key : String) (value : Option Value) : List (Scalar × Value) :=
  (value.map fun v => (Scalar.str key, v)).toList

/-- A key is looked up in the first entries and then in the others. -/
theorem lookup?_append (entries others : List (Scalar × Value)) (key : String) :
    lookup? (entries ++ others) key = (lookup? entries key).or (lookup? others key) := by
  rw [lookup?, List.find?_append, lookup?, lookup?]
  cases entries.find? fun e => decide (e.1 = .str key) <;> rfl

theorem lookup?_entryOf (key other : String) (value : Option Value) :
    lookup? (entryOf key value) other = if key = other then value else none := by
  cases value with
  | none => simp [entryOf, lookup?]
  | some v => by_cases h : key = other <;> simp [entryOf, lookup?, h]

/-! ## Texts and their characters -/

@[simp]
theorem strs_inj {a b : List String} : strs a = strs b ↔ a = b := by
  unfold strs
  rw [List.map_inj_right]
  intro x y h
  cases h
  rfl

/-- A text is iterated over character by character. -/
theorem iterate_str (text : String) :
    (str text).iterate = .ok (strs (text.toList.map String.singleton)) :=
  rfl

/-- A text of one character is its only character. -/
theorem singletons_eq {text : String} (h : text.length = 1) :
    text.toList.map String.singleton = [text] := by
  rw [← String.length_toList] at h
  rcases List.length_eq_one_iff.mp h with ⟨c, hc⟩
  have htext : text = String.singleton c := by
    rw [← String.toList_inj, hc, String.toList_singleton]
  rw [hc, List.map_singleton, ← htext]

/-- A text is one of its own characters exactly when it has one. -/
theorem mem_singletons_iff (text : String) :
    text ∈ text.toList.map String.singleton ↔ text.length = 1 := by
  constructor
  · intro hmem
    rcases List.mem_map.mp hmem with ⟨c, -, hc⟩
    rw [← String.length_toList, ← hc, String.toList_singleton, List.length_singleton]
  · intro hlength
    rw [singletons_eq hlength]
    exact List.mem_singleton_self text

theorem hashable_of_mem_strs {texts : List String} {v : Value} (h : v ∈ strs texts) :
    v.hashable = true := by
  rcases List.mem_map.mp h with ⟨text, -, rfl⟩
  rfl

/-- A list is iterated over also where an empty one would be replaced by another. -/
theorem iterate_orElse_list (items : List Value) :
    ((list items).orElse (list [])).iterate = .ok items := by
  cases items with
  | nil => rfl
  | cons item items => rfl

/-- A list of texts can be made a set, also where an empty one would be replaced by another. -/
theorem elements_orElse_strs (texts : List String) :
    ((list (strs texts)).orElse (list [])).elements = .ok (strs texts) := by
  have hall : (strs texts).all hashable = true :=
    List.all_eq_true.mpr fun v hv => hashable_of_mem_strs hv
  rw [elements, iterate_orElse_list]
  exact if_pos hall

/-! ## Reading a field -/

/-- The text is the whole field or an item of it. -/
def Holds : Value → String → Prop
  | scalar s, text => s = .str text
  | list items, text => str text ∈ items
  | dict _, _ => False

/-- What is read from a field is the whole of it, if it is a text, or the texts it lists. -/
def ReadsWhole (field : Value) (texts : Finset String) : Prop :=
  ∀ text, text ∈ texts ↔ field.Holds text

/-- The field is no text of other than one character, and no mapping with a key. -/
def Itemised : Value → Prop
  | scalar (.str text) => text.length = 1
  | scalar _ => True
  | list _ => True
  | dict entries => entries = []

theorem str_mem_strs_iff {text : String} {texts : List String} :
    str text ∈ strs texts ↔ text ∈ texts := by
  simp [strs]

/-- The characters of a text are the whole of it exactly when it has one. -/
private theorem readsWhole_str_iff (text : String) :
    (str text).ReadsWhole (text.toList.map String.singleton).toFinset ↔ (str text).Itemised := by
  rw [Itemised]
  constructor
  · intro hreads
    rw [← mem_singletons_iff, ← List.mem_toFinset]
    exact (hreads text).mpr rfl
  · intro hlength other
    rw [singletons_eq hlength, List.mem_toFinset, List.mem_singleton, Holds,
      Scalar.str.injEq, eq_comm]

/-- The keys of a mapping are not held by it, so it is read whole only if it has none. -/
private theorem readsWhole_dict_iff {entries : List (Scalar × Value)} {texts : List String}
    (h : entries.map (fun e => scalar e.1) = strs texts) :
    (dict entries).ReadsWhole texts.toFinset ↔ (dict entries).Itemised := by
  constructor
  · intro hreads
    cases entries with
    | nil => rfl
    | cons entry entries =>
        cases texts with
        | nil => cases h
        | cons text texts => exact ((hreads text).mp (by simp)).elim
  · intro hempty
    rw [Itemised] at hempty
    subst hempty
    rw [List.map_nil, strs, eq_comm, List.map_eq_nil_iff] at h
    subst h
    simp [ReadsWhole, Holds]

/-- Iteration over a field that gives texts reads the field whole exactly when the field is no
text of several characters, or of none, and no mapping with a key. -/
theorem readsWhole_iff {field : Value} {texts : List String}
    (h : field.iterate = .ok (strs texts)) :
    field.ReadsWhole texts.toFinset ↔ field.Itemised := by
  cases field with
  | scalar s =>
      cases s with
      | str text =>
          rw [iterate_str, Except.ok.injEq, strs_inj] at h
          subst h
          exact readsWhole_str_iff text
      | _ => cases h
  | list items =>
      cases h
      refine iff_of_true ?_ trivial
      intro text
      rw [List.mem_toFinset, Holds, str_mem_strs_iff]
  | dict entries =>
      rw [iterate, Except.ok.injEq] at h
      exact readsWhole_dict_iff h

/-- Of a field that does not count as true, only the empty text is lost. -/
theorem readsWhole_empty_iff {field : Value} (hfalse : ¬ field.truthy = true) :
    field.ReadsWhole ∅ ↔ field.Itemised := by
  cases field with
  | scalar s =>
      cases s with
      | str text =>
          have hempty : text = "" := by simpa [truthy, Scalar.truthy] using hfalse
          subst hempty
          refine iff_of_false ?_ (by simp [Itemised])
          intro hreads
          exact Finset.notMem_empty _ ((hreads "").mpr rfl)
      | _ => exact iff_of_true (by simp [ReadsWhole, Holds]) trivial
  | list items =>
      cases items with
      | nil => exact iff_of_true (by simp [ReadsWhole, Holds]) trivial
      | cons item items => exact absurd rfl hfalse
  | dict entries =>
      cases entries with
      | nil => exact iff_of_true (by simp [ReadsWhole, Holds]) rfl
      | cons entry entries => exact absurd rfl hfalse

/-- The same for a field read only if it counts as true. -/
theorem readsWhole_orElse_iff {field : Value} {texts : List String}
    (h : (field.orElse (list [])).iterate = .ok (strs texts)) :
    field.ReadsWhole texts.toFinset ↔ field.Itemised := by
  by_cases htrue : field.truthy = true
  · rw [orElse, if_pos htrue] at h
    exact readsWhole_iff h
  · rw [orElse, if_neg htrue] at h
    cases texts with
    | nil => exact readsWhole_empty_iff htrue
    | cons text texts => cases h

end Value
