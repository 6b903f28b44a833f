import Tearline.FixtureLoader
import Tearline.Verify.Report

/-!
# Candidate limits

The limit that an index or a target states is read as it stands and is only tested for truth where
it is used.  A limit that counts as false is none.  One that counts as true ends a slice of what a
probe lists, and where it is no whole number the first probe that is run raises.

Main definitions:

- Definition {lit}`appliedLimit`: the limit that a value comes to.
- Definition {lit}`LoadedVariant.verify`: the verification of a variant as it is loaded.

Main results:

- Theorem {lit}`LoadedVariant.verify_eq_ok_iff`: it reports exactly where the limit can be applied
  and the verification under that limit reports.
-/

namespace Tearline

/-- The limit that a value comes to when it is applied to probes: `matches[:limit] if limit else
matches`. -/
def appliedLimit (probes : List Probe) (annLimit : Value) : Except PyError (Option Int) :=
  match annLimit with
  | .scalar (.int k) => .ok (some k)
  | .scalar (.bool b) => .ok (if b then some 1 else none)
  | other =>
      -- a probe that is not run is skipped before its slice is taken
      if other.truthy && probes.any Probe.runnable then .error .typeError else .ok none

/-- What a verification does before it comes to the probes. -/
def beforeProbes (scenario : Scenario) (variant : Variant) : Except PyError Unit := do
  let _ ← checkPropagation scenario variant
  let _ ← enforcementFor scenario.rule variant.enforcement
  return ()

/-- The source's `verify` of a variant as it is loaded, without a live store. -/
def LoadedVariant.verify (loaded : LoadedVariant) (scenario : Scenario)
    (enforcementSite : String) : Except PyError VerificationReport :=
  match appliedLimit scenario.probes loaded.annLimit with
  | .ok annLimit => Tearline.verify scenario (loaded.limited annLimit) none enforcementSite
  | .error e => do
      beforeProbes scenario (loaded.limited none)
      .error e

/-- A variant that is loaded is verified exactly where its limit can be applied and the variant
with that limit is verified. -/
theorem LoadedVariant.verify_eq_ok_iff {loaded : LoadedVariant} {scenario : Scenario}
    {site : String} {report : VerificationReport} :
    loaded.verify scenario site = .ok report ↔
      ∃ annLimit, appliedLimit scenario.probes loaded.annLimit = .ok annLimit ∧
        Tearline.verify scenario (loaded.limited annLimit) none site = .ok report := by
  unfold LoadedVariant.verify
  cases appliedLimit scenario.probes loaded.annLimit with
  | error e => simp
  | ok annLimit => simp

end Tearline
