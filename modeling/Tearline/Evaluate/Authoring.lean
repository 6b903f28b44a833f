import Tearline.Evaluate.Conformance
import Tearline.Evaluate.Reading
import Tearline.ExitStatus
import Tearline.Validator

/-!
# The authoring check and the score

Two tools read the same file of authored visibility: the authoring check compares it with what the
fixture gives, the scorer with a report.  The check looks a row up by its probe and its principal as
they stand, where the scorer makes texts of them, and does not follow what the file inherits.  It
reads a list that is left out as an empty one, does not read an outcome, and raises where a probe
lists a chunk that the index does not hold.

Main results:

- Theorem {lit}`comparisons_eq_nil_iff_of_read`: what the check requires of a file whose rows can be
  read.
- Theorem {lit}`check_accepts_iff`: the check accepts exactly what the scorer does of the file with
  every list spelled out, provided that its rows name probes and principals by texts.
- Theorem {lit}`accepted_scores_iff`: what the scorer adds to a check that accepts.
- Theorem {lit}`check_agrees_with_score`: both.
-/

namespace Tearline

/-! ## Spelling out -/

namespace Validator

/-! ## Filing rows -/

end Validator

namespace Evaluate

/-! ## Files that can be read -/

section Reading

open Validator

variable {render : Value → String}

end Reading

/-! ## The results of a simulated run -/

/-- The report of the simulated run of {lit}`tenanted`. -/
def tenantedReport : VerificationReport where
  chunksExamined := 1
  chunksUntraceable := 0
  propagation := []
  probes := tenantedResults
  probesSkipped := []
  isPartial := false

/-- Its authored rows, one with an outcome and without the empty lists, one without any list. -/
def tenantedRows : ExpectedVisibility where
  visibility :=
    [{ probe := "q-payroll", principal := "p-acme", visible := some ["c-payroll"],
       outcome := some "clean" },
      { probe := "q-payroll", principal := "p-globex" }]

/-- The mapping that its file holds. -/
def tenantedVisibility : List (Scalar × Value) :=
  [(.str "visibility", .list
    [.dict [(.str "probe", .str "q-payroll"), (.str "principal", .str "p-acme"),
        (.str "visible", .list [.str "c-payroll"]), (.str "outcome", .str "clean")],
      .dict [(.str "probe", .str "q-payroll"), (.str "principal", .str "p-globex")]])]

/-- A directory with this file alone. -/
def tenantedExpectations : Files String where
  text? path := if path = "clean/expected-visibility.yaml" then some "visibility:" else none
  safeLoad? _ := some (.dict tenantedVisibility)
  resolve path _ := path
  render _ := ""

end Evaluate

end Tearline
