import Tearline.Library.Dict

/-!
# Authored expectations

What an author expects of a variant, as the `expected-*.yaml` files hold it once `inherits:`
has been followed.  A list an author leaves out is not the same as an empty one for every
reader of a file.

Main definitions:

- Structure {lit}`VisibilityRow`: one probe under one principal.
- Definition {lit}`VisibilityRow.listed`: an authored list, with one left out read as empty.
- Structure {lit}`TruthSet`: the four files of a variant.
-/

namespace Tearline

/-! ## Visibility -/

/-- The lists a row can carry. -/
inductive ListLabel
  /-- `visible` -/
  | visible
  /-- `over_retrieved` -/
  | overRetrieved
  /-- `under_retrieved` -/
  | underRetrieved
  /-- `undetermined_returned` -/
  | undeterminedReturned
  /-- `absent_from_index` -/
  | absentFromIndex
deriving DecidableEq, Repr

/-- One row of the `visibility` list.  A list is {lit}`none` where the row has no such key; a
key without a value is an empty list. -/
structure VisibilityRow where
  probe : String
  principal : String
  visible : Option (List String) := none
  overRetrieved : Option (List String) := none
  underRetrieved : Option (List String) := none
  undeterminedReturned : Option (List String) := none
  absentFromIndex : Option (List String) := none
  outcome : Option String := none
deriving DecidableEq

/-- The file: its rows and, if it says so, the probes that cannot run. -/
structure ExpectedVisibility where
  visibility : List VisibilityRow
  probesSkipped : Option (List String) := none
deriving DecidableEq

namespace VisibilityRow

/-- The probe and the principal a row is about. -/
def key (row : VisibilityRow) : String × String :=
  (row.probe, row.principal)

/-- The list authored under a label, if there is one. -/
def authored (row : VisibilityRow) : ListLabel → Option (List String)
  | .visible => row.visible
  | .overRetrieved => row.overRetrieved
  | .underRetrieved => row.underRetrieved
  | .undeterminedReturned => row.undeterminedReturned
  | .absentFromIndex => row.absentFromIndex

/-- `set(row.get(label) or [])` -/
def listed (row : VisibilityRow) (label : ListLabel) : Finset String :=
  ((row.authored label).getD []).toFinset

end VisibilityRow

/-! ## The other files -/

/-- A finding the author expects; what is left out is not compared. -/
structure FindingRow where
  chunkId : String
  verdict : Option String := none
  cause : Option String := none
deriving DecidableEq

/-- A verdict or a cause a chunk must not be given. -/
structure ForbiddenRow where
  chunkId : String
  value : String
deriving DecidableEq

/-- `expected-propagation.yaml` -/
structure ExpectedPropagation where
  expectedFindings : List FindingRow := []
  chunksExamined : Option Int := none
  chunksUntraceable : Option Int := none
  forbiddenVerdicts : List ForbiddenRow := []
  forbiddenCauses : List ForbiddenRow := []
deriving DecidableEq

/-- What an entry of the negative set names. -/
structure NegativeSubject where
  chunk : Option String := none
  probe : Option String := none
deriving DecidableEq

/-- An entry of `must_not_flag`: its subject if it has a structured one, and whether it says
that another file covers it. -/
structure NegativeRow where
  subject : Option NegativeSubject := none
  coveredBy : Bool := false
deriving DecidableEq

/-- `expected-clean.yaml` -/
structure ExpectedClean where
  mustNotConclude : List String := []
  propertiesAbsent : List String := []
  mustNotFlag : List NegativeRow := []
deriving DecidableEq

/-- The four files of a variant; the last one is its list of subjects. -/
structure TruthSet where
  propagation : ExpectedPropagation := {}
  visibility : ExpectedVisibility
  clean : ExpectedClean := {}
  unverifiable : List String := []
deriving DecidableEq

end Tearline
