import Tearline.Domain
import Tearline.Library.Loop
import Tearline.Library.Value

/-!
# Building domain objects from loaded documents

Every loader ends in a constructor of the domain that checks its fields: a text must be a text,
and so must every member of a set or of a tuple.  What the constructor is given is read from the
document without such a check.

Main definitions:

- Type {lit}`LoadError`: how a loader can fail.
- Definition {lit}`entitlementOf`: an entitlement from the values read for its fields.
-/

namespace Tearline

/-! ## Failures -/

/-- What is wrong with a rule document. -/
inductive RuleFault
  /-- `{path} is missing` -/
  | missing
  /-- ``{path} has no `rule:` mapping`` -/
  | noMapping
  /-- `combinator {combine!r} is not one of …` -/
  | combinator (combine : Value)
  /-- `the rule states no {key} clause` -/
  | noClause (key : String)
  /-- `{key} clause {value!r} is not one of …` -/
  | clause (key : String) (value : Value)
  /-- `unknown combinator {self.combine!r}` -/
  | unknownCombinator (combine : String)

/-- How a loader fails. -/
inductive LoadError
  /-- An operation on the document raises. -/
  | raised (e : Value.Error)
  /-- A text that is no member of an enumeration or no timestamp. -/
  | valueError
  /-- A refused rule. -/
  | ruleError (fault : RuleFault)
  /-- A field that a constructor refuses. -/
  | validationError (model : String)

/-- An operation on a document, as a step of a loader. -/
def read {α : Type} (x : Except Value.Error α) : Except LoadError α :=
  x.mapError .raised

@[simp]
theorem read_eq_ok {α : Type} {x : Except Value.Error α} {a : α} :
    read x = .ok a ↔ x = .ok a := by
  cases x with
  | error e => simp [read, Except.mapError]
  | ok b => simp [read, Except.mapError]

/-- `str(value)`; how a value that is not a text is printed is left open. -/
def textOf (render : Value → String) : Value → String
  | .scalar (.str text) => text
  | value => render value

/-! ## Fields -/

/-- `frozenset(raw.get(key) or [])` -/
def frozensetAt (raw : Value) (key : String) : Except LoadError (List Value) := do
  let value ← read (raw.get key)
  read (value.orElse (.list [])).elements

/-- `tuple(raw.get(key) or [])` -/
def tupleAt (raw : Value) (key : String) : Except LoadError (List Value) := do
  let value ← read (raw.get key)
  read (value.orElse (.list [])).iterate

/-- What a field of type `str` accepts. -/
def asStr : Value → Option String
  | .scalar (.str text) => some text
  | _ => none

/-- What a field of type `str | None` accepts. -/
def asOptionalStr : Value → Option (Option String)
  | .scalar .null => some none
  | .scalar (.str text) => some (some text)
  | _ => none

/-- What the members of a field of type `frozenset[str]` or `tuple[str, ...]` must be. -/
def asStrs (items : List Value) : Option (List String) :=
  items.mapM asStr

/-- What a field of type `datetime | None` accepts; how a value that is given is read as a
time is left open. -/
def asOptionalDateTime (coerce : Value → Option DateTime) : Value → Option (Option DateTime)
  | .scalar .null => some none
  | value => (coerce value).map some

/-- A constructor whose fields are checked. -/
def validated {α : Type} (model : String) (fields : Option α) : Except LoadError α :=
  match fields with
  | none => .error (.validationError model)
  | some object => .ok object

/-- `EntitlementState(value)` -/
def stateOf : Value → Except LoadError EntitlementState
  | .scalar (.str "stated") => .ok .stated
  | .scalar (.str "unknown") => .ok .unknown
  | _ => .error .valueError

/-- `Entitlement(…)` -/
def entitlementOf (state : EntitlementState) (tenants roles principals : List Value)
    (classification : Value) : Except LoadError Entitlement :=
  validated "Entitlement" do
    let tenants ← asStrs tenants
    let roles ← asStrs roles
    let principals ← asStrs principals
    let classification ← asOptionalStr classification
    return {
      state := state
      tenants := tenants.toFinset
      roles := roles.toFinset
      principals := principals.toFinset
      classification := classification }

/-! ## Accepted fields -/

@[simp]
theorem validated_eq_ok {α : Type} {model : String} {fields : Option α} {object : α} :
    validated model fields = .ok object ↔ fields = some object := by
  cases fields with
  | none => simp [validated]
  | some other => simp [validated]

@[simp]
theorem asStr_eq_some_iff {value : Value} {text : String} :
    asStr value = some text ↔ value = .str text := by
  unfold asStr
  split
  · simp
  · rename_i hother
    simp only [reduceCtorEq, false_iff]
    exact fun h => hother text h

/-- A text in a field that may be left out is the text of the field. -/
theorem asOptionalStr_eq_some_iff {value : Value} {text : String} :
    asOptionalStr value = some (some text) ↔ value = .str text := by
  unfold asOptionalStr
  split
  · simp
  · simp
  · rename_i hother
    simp only [reduceCtorEq, false_iff]
    exact fun h => hother text h

/-- The members of a set or of a tuple are accepted exactly when they are texts. -/
theorem asStrs_eq_some_iff {items : List Value} {texts : List String} :
    asStrs items = some texts ↔ items = Value.strs texts := by
  unfold asStrs
  induction items generalizing texts with
  | nil => cases texts <;> simp [Value.strs]
  | cons item items ih =>
      simp only [List.mapM_cons, Option.bind_eq_bind, Option.bind_eq_some_iff, ih,
        asStr_eq_some_iff, Option.pure_def, Option.some.injEq]
      constructor
      · intro hitems
        rcases hitems with ⟨text, rfl, rest, rfl, rfl⟩
        rfl
      · intro hitems
        cases texts with
        | nil => cases hitems
        | cons text texts =>
            cases hitems
            exact ⟨text, rfl, texts, rfl, rfl⟩

/-! ## Fields read whole -/

section Fields

variable {raw : Value} {key : String} {texts : List String}

/-- A set is read whole exactly when its field is itemised. -/
theorem readsWhole_frozensetAt (h : frozensetAt raw key = .ok (Value.strs texts)) :
    (raw.entry key).ReadsWhole texts.toFinset ↔ (raw.entry key).Itemised := by
  simp only [frozensetAt, Loop.bind_eq_ok, read_eq_ok] at h
  rcases h with ⟨value, hvalue, helements⟩
  rw [Value.get_eq_ok hvalue]
  exact Value.readsWhole_orElse_iff (Value.iterate_of_elements helements)

/-- So is a tuple that may be left out. -/
theorem readsWhole_tupleAt (h : tupleAt raw key = .ok (Value.strs texts)) :
    (raw.entry key).ReadsWhole texts.toFinset ↔ (raw.entry key).Itemised := by
  simp only [tupleAt, Loop.bind_eq_ok, read_eq_ok] at h
  rcases h with ⟨value, hvalue, hitems⟩
  rw [Value.get_eq_ok hvalue]
  exact Value.readsWhole_orElse_iff hitems

end Fields

end Tearline
