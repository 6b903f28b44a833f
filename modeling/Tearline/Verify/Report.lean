import Tearline.Verify.Probes
import Tearline.Verify.Propagation

/-!
# Reports and the exit status

Main definitions:

- Definition {lit}`verify`: both axes and the partial flag.
- Definition {lit}`exitStatus`: non-zero for a finding, a contradicted probe or a
  partial run.

Main results:

- Theorem {lit}`verify_eq_ok_iff`: a report is both axes of the same scenario.
- Theorem {lit}`exitStatus_eq_zero_iff`: what a zero status says about a report.
-/

namespace Tearline

/-- Verify an index against its source system on both axes. -/
def verify (scenario : Scenario) (variant : Variant) (retrieve : Option Retrieve)
    (enforcementSite : String) : Except PyError VerificationReport := do
  let (findings, untraceable) ← checkPropagation scenario variant
  let (probes, skipped) ← runProbes scenario variant retrieve
  return {
    chunksExamined := variant.chunks.values.length
    chunksUntraceable := untraceable
    propagation := findings
    probes := probes
    probesSkipped := skipped
    isPartial := !skipped.isEmpty || probes.any fun p => decide (p.absentFromIndex ≠ ∅)
    enforcementSite := enforcementSite }

/-- Non-zero when the report carries anything a caller must not ignore. -/
def exitStatus (report : VerificationReport) : Nat :=
  let contradicted := report.probes.any fun probe => decide (probe.verdict = .contradicted)
  if !report.propagation.isEmpty || contradicted || report.isPartial then 1 else 0

/-! ## What a report carries -/

/-- A report is both axes of the same scenario. -/
theorem verify_eq_ok_iff (scenario : Scenario) (variant : Variant)
    (retrieve : Option Retrieve) (site : String) (report : VerificationReport) :
    verify scenario variant retrieve site = .ok report ↔
      checkPropagation scenario variant = .ok (report.propagation, report.chunksUntraceable) ∧
      runProbes scenario variant retrieve = .ok (report.probes, report.probesSkipped) ∧
      report.chunksExamined = variant.chunks.values.length ∧
      report.isPartial =
        (!report.probesSkipped.isEmpty ||
          report.probes.any fun p => decide (p.absentFromIndex ≠ ∅)) ∧
      report.enforcementSite = site := by
  unfold verify
  simp only [Loop.bind_eq_ok, Loop.pure_eq_ok]
  constructor
  · intro hruns
    rcases hruns with ⟨⟨findings, untraceable⟩, hcheck, ⟨probes, skipped⟩, hrun, rfl⟩
    exact ⟨hcheck, hrun, rfl, rfl, rfl⟩
  · intro hparts
    rcases hparts with ⟨hcheck, hrun, hexamined, hflag, hsite⟩
    refine ⟨_, hcheck, _, hrun, ?_⟩
    cases report
    simp_all

/-- A zero status says there is no finding, no contradicted probe and no gap. -/
theorem exitStatus_eq_zero_iff (report : VerificationReport) :
    exitStatus report = 0 ↔
      report.propagation = [] ∧ (∀ r ∈ report.probes, r.verdict ≠ .contradicted) ∧
        report.isPartial = false := by
  simp [exitStatus, and_assoc]

/-- The status is zero or one. -/
theorem exitStatus_eq_one_iff (report : VerificationReport) :
    exitStatus report = 1 ↔ exitStatus report ≠ 0 := by
  unfold exitStatus
  dsimp only
  split_ifs <;> simp

private theorem verdictOf_ne_contradicted_iff (a b : Finset String) :
    (if a ≠ ∅ ∨ b ≠ ∅ then Verdict.contradicted else .verified) ≠ .contradicted ↔
      a = ∅ ∧ b = ∅ := by
  by_cases hdefect : a ≠ ∅ ∨ b ≠ ∅
  · rw [if_pos hdefect]
    exact iff_of_false (fun h => h rfl) fun h => hdefect.elim (· h.1) (· h.2)
  · rw [if_neg hdefect]
    rw [not_or, not_not, not_not] at hdefect
    exact iff_of_true Verdict.noConfusion hdefect

/-- A verdict is contradicted exactly when something was over or under retrieved. -/
theorem verdict_ne_contradicted_iff (scenario : Scenario) (variant : Variant)
    (enforce : Enforcement) (retrieve : Option Retrieve) (q : Question) :
    (answerTo scenario variant enforce retrieve q).verdict ≠ .contradicted ↔
      (answerTo scenario variant enforce retrieve q).overRetrieved = ∅ ∧
        (answerTo scenario variant enforce retrieve q).underRetrieved = ∅ :=
  verdictOf_ne_contradicted_iff _ _

end Tearline
