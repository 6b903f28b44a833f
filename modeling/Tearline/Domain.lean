import Mathlib.Data.Finset.Basic

/-!
# Domain objects

The records of the verifier: principals, entitlements, source documents, index
chunks, probes, findings and reports.  Identifiers are strings and every
`frozenset[str]` is a finite set of strings.  No record has a field for chunk
text.

Main definitions:

- Definition {lit}`Entitlement.intersect`: the field-by-field safe bound of two
  entitlements.
- Definition {lit}`DateTime.gt`: ordering of timestamps, which fails between a
  naive and an aware one.
- Definition {lit}`Probe.runnable`: a probe needs two identities.
-/

namespace Tearline

/-! ## Failures -/

/-- The exceptions the modelled functions raise.  Each carries the value its
message interpolates. -/
inductive PyError
  /-- A naive time compared with an aware one, or a slice that ends at no whole number. -/
  | typeError
  /-- A mapping subscripted with a key it does not hold. -/
  | keyError (key : String)
  /-- A failed `assert`. -/
  | assertionError
  /-- `unknown enforcement model {model!r}; DEC-013 closes the set` -/
  | valueError (model : String)
deriving DecidableEq, Repr

/-! ## Enumerations -/

/-- The closed set of verdicts. -/
inductive Verdict
  | verified
  | contradicted
  | unverifiable
deriving DecidableEq, Repr

/-- Whether an entitlement was stated.  There is no permissive value: absence is
{lit}`unknown`. -/
inductive EntitlementState
  | stated
  | unknown
deriving DecidableEq, Repr

/-- Why an index tag and its source disagree, independently of the verdict. -/
inductive MismatchCause
  | propagationFault
  | drift
  | undetermined
  | indeterminateSource
  | exceedsSafeBound
deriving DecidableEq, Repr

/-- How what a principal received differed from what it is entitled to. -/
inductive ProbeOutcome
  | clean
  | overRetrieval
  | underRetrieval
  | both
  | notRun
deriving DecidableEq, Repr

/-! ## Timestamps -/

/-- A Python `datetime` in microseconds: a naive one is a wall-clock reading, an
aware one an instant. -/
inductive DateTime
  | naive (reading : Int)
  | aware (instant : Int)
deriving DecidableEq, Repr

/-- Python's `>` on datetimes: ordering a naive one against an aware one raises. -/
def DateTime.gt : DateTime → DateTime → Except PyError Bool
  | .naive a, .naive b => .ok (decide (a > b))
  | .aware a, .aware b => .ok (decide (a > b))
  | .naive _, .aware _ => .error .typeError
  | .aware _, .naive _ => .error .typeError

/-- Python's `max` of a non-empty sequence: the first of the greatest items. -/
def DateTime.maxOf (first : DateTime) (rest : List DateTime) : Except PyError DateTime :=
  rest.foldlM (fun best t => do return if ← t.gt best then t else best) first

/-! ## Principals and entitlements -/

/-- An identity retrieval is performed as. -/
structure Principal where
  id : String
  label : String
  tenant : Option String := none
  roles : Finset String := ∅
deriving DecidableEq

/-- What a document or chunk requires of a reader. -/
structure Entitlement where
  state : EntitlementState
  tenants : Finset String := ∅
  roles : Finset String := ∅
  principals : Finset String := ∅
  classification : Option String := none
deriving DecidableEq

/-- The role set of a bound: intersected when both sides name roles, and the
union when one side names none. -/
def meetRoles (a b : Finset String) : Finset String :=
  if a ≠ ∅ ∧ b ≠ ∅ then a ∩ b else a ∪ b

/-- The safe bound for a chunk drawn from both. -/
def Entitlement.intersect (self other : Entitlement) : Entitlement :=
  if self.state = .unknown ∨ other.state = .unknown then
    { state := .unknown }
  else
    { state := .stated
      tenants := self.tenants ∩ other.tenants
      roles := meetRoles self.roles other.roles
      principals := self.principals ∩ other.principals }

/-! ## Documents and chunks -/

/-- A document as the source system holds it. -/
structure SourceDocument where
  id : String
  system : String
  entitlement : Entitlement
  label : Option String := none
  aclModifiedAt : Option DateTime := none
deriving DecidableEq

/-- A chunk as the index holds it; its entitlement is the index's claim. -/
structure Chunk where
  id : String
  sourceDocumentIds : List String := []
  entitlement : Entitlement
  ingestedAt : Option DateTime := none
deriving DecidableEq

/-- One result of the propagation axis. -/
structure PropagationFinding where
  chunkId : String
  verdict : Verdict
  cause : MismatchCause
  observed : Entitlement
  expected : Option Entitlement := none
  detail : String := ""
deriving DecidableEq

/-! ## Probes and reports -/

/-- A query, the identities it is asked under and, as {lit}`matchIds`, the source's
`matches`: the chunks relevant to it in rank order. -/
structure Probe where
  id : String
  query : String
  principals : List String
  matchIds : List String
deriving DecidableEq

/-- Fewer than two identities cannot demonstrate isolation. -/
def Probe.runnable (probe : Probe) : Bool :=
  decide (2 ≤ probe.principals.length)

/-- What one principal received for one probe, compared with the truth. -/
structure ProbeResult where
  probeId : String
  principalId : String
  returned : List String
  overRetrieved : Finset String
  underRetrieved : Finset String
  verdict : Verdict
  outcome : ProbeOutcome
  absentFromIndex : Finset String := ∅
  undeterminedReturned : Finset String := ∅
deriving DecidableEq

/-- The report of a run; {lit}`isPartial` is the source's `partial`. -/
structure VerificationReport where
  chunksExamined : Nat
  chunksUntraceable : Nat
  propagation : List PropagationFinding
  probes : List ProbeResult
  probesSkipped : List String
  isPartial : Bool
  enforcementSite : String := "simulated"
deriving DecidableEq

end Tearline
