import Tearline.Evaluate.Registry
import Tearline.Printing
import Tearline.ScanCommand
import Tearline.SimulatedStore

/-!
# The verify command

The command loads a scenario and one variant of it, verifies the variant without a live store,
prints the report as text or as JSON and exits with its status.

Main results:

- Theorem {lit}`exitStatus_verify_offline_iff`: what a zero status says of a scenario and an index.
- Theorem {lit}`cmdVerify_eq_zero_iff`: when the command exits with zero.
-/

namespace Tearline

open Evaluate

/-! ## The command -/

/-- The source's `_emit`; the serialised report is a text of its own. -/
def emit (repr : String → String) (dump : VerificationReport → String)
    (report : VerificationReport) (title : String) (asJson : Bool) : Printed :=
  if asJson then { lines := [dump report] } else printReport repr report title

/-- The source's `_cmd_verify` on the directory of a name: the lines it prints and the exit
status. -/
def Evaluate.Benchmarks.cmdVerify {Path : Type} (benchmarks : Benchmarks Path)
    (repr : String → String) (dump : VerificationReport → String) (path : Path) (pathName : String)
    (variantName : String) (asJson : Bool) : Except RegistryFailure (List String × Nat) := do
  let scenario ← benchmarks.scenarioOf path pathName
  let variant ← benchmarks.variantOf path variantName
  let report ← (variant.verify scenario "simulated").mapError .run
  let printed := emit repr dump report (pathName ++ "/" ++ variantName) asJson
  match printed.raised with
  | some e => .error (.run e)
  | none => return (printed.lines, exitStatus report)

/-- A report of an offline run is printed to its end. -/
theorem emit_raised {scenario : Scenario} {variant : Variant} {report : VerificationReport}
    (hverify : verify scenario variant none "simulated" = .ok report) (repr : String → String)
    (dump : VerificationReport → String) (title : String) (asJson : Bool) :
    (emit repr dump report title asJson).raised = none := by
  have hsite : report.enforcementSite = "simulated" :=
    ((verify_eq_ok_iff _ _ _ _ _).mp hverify).2.2.2.2
  unfold emit
  split_ifs
  · rfl
  · rw [printReport, hsite]
    rfl

/-! ## A zero status -/

/-- What a zero status says of a scenario and an index that are verified offline. -/
structure CleanIndex (scenario : Scenario) (variant : Variant) (enforce : Enforcement) :
    Prop where
  tagged : ∀ chunk ∈ variant.chunks.values, ∃ source, locatedSources scenario chunk = [source] ∧
    same chunk.entitlement source.entitlement = true
  covered : ∀ probe ∈ scenario.probes, 2 ≤ probe.principals.length ∧
    (∀ pid ∈ probe.principals, ∃ principal, scenario.principals.get? pid = some principal) ∧
    ∀ cid ∈ probe.matchIds, Held variant cid
  enforced : ∀ q ∈ questions scenario, ∀ cid ∈ q.probe.matchIds, ∀ chunk,
    variant.chunks.get? cid = some chunk →
      (scenario.rule.entitled chunk.entitlement q.principal = true ↔
        cid ∈ candidates q.probe variant.annLimit ∧ enforce chunk.entitlement q.principal = true)

/-- In an index whose tags are those of their one source, the sources of a chunk grant what its
tag does. -/
theorem sourcesGrant_iff_of_tagged {scenario : Scenario} {variant : Variant}
    (htagged : ∀ chunk ∈ variant.chunks.values, ∃ source,
      locatedSources scenario chunk = [source] ∧
        same chunk.entitlement source.entitlement = true)
    {cid : String} {chunk : Chunk} (hchunk : variant.chunks.get? cid = some chunk)
    (principal : Principal) :
    SourcesGrant scenario chunk principal ↔
      scenario.rule.entitled chunk.entitlement principal = true := by
  rcases htagged chunk (Dict.mem_values_of_get? hchunk) with ⟨source, hsource, hsame⟩
  exact sourcesGrant_iff_of_same hsource hsame principal

/-- A clean index is one behind whose simulated store a pipeline is clean. -/
theorem cleanIndex_iff {scenario : Scenario} {variant : Variant} {enforce : Enforcement} :
    CleanIndex scenario variant enforce ↔
      (∀ probe ∈ scenario.probes, ∀ pid ∈ probe.principals,
          ∃ principal, scenario.principals.get? pid = some principal) ∧
        PipelineClean scenario variant (simulatedStore variant enforce) := by
  constructor
  · intro hclean
    have hgrant := fun cid chunk (hchunk : variant.chunks.get? cid = some chunk) principal =>
      sourcesGrant_iff_of_tagged hclean.tagged hchunk principal
    refine ⟨fun probe hprobe => (hclean.covered probe hprobe).2.1, ?_,
      fun probe hprobe => ⟨(hclean.covered probe hprobe).1, (hclean.covered probe hprobe).2.2⟩,
      fun q hq cid hcid chunk hchunk => ?_, fun q hq cid hcid chunk hchunk hgranted => ?_⟩
    · simpa only [same_eq_true_iff] using hclean.tagged
    · have hserved := (mem_simulatedStore_iff hchunk).mp hcid
      have hlisted := candidates_subset q.probe variant.annLimit hserved.1
      exact (hgrant cid chunk hchunk _).mpr
        ((hclean.enforced q hq cid hlisted chunk hchunk).mpr hserved)
    · have hentitled := (hgrant cid chunk hchunk _).mp hgranted
      exact (mem_simulatedStore_iff hchunk).mpr
        ((hclean.enforced q hq cid hcid chunk hchunk).mp hentitled)
  · intro hclean
    rcases hclean with ⟨hdeclared, hpipeline⟩
    have htagged : ∀ chunk ∈ variant.chunks.values, ∃ source,
        locatedSources scenario chunk = [source] ∧
          same chunk.entitlement source.entitlement = true := by
      simpa only [same_eq_true_iff] using hpipeline.tagged
    refine ⟨htagged, fun probe hprobe => ⟨(hpipeline.covered probe hprobe).1,
      hdeclared probe hprobe, (hpipeline.covered probe hprobe).2⟩,
      fun q hq cid hcid chunk hchunk => ?_⟩
    rw [← sourcesGrant_iff_of_tagged htagged hchunk, ← mem_simulatedStore_iff hchunk]
    constructor
    · intro hgranted
      exact hpipeline.granted_answered q hq cid hcid chunk hchunk hgranted
    · intro hserved
      exact hpipeline.answered_granted q hq cid hserved chunk hchunk

/-- An offline verification exits with zero exactly when its enforcement model is known and its
index is clean under it. -/
theorem exitStatus_verify_offline_iff (scenario : Scenario) (variant : Variant) (site : String) :
    (verify scenario variant none site).map exitStatus = .ok 0 ↔
      ∃ enforce, enforcementFor scenario.rule variant.enforcement = .ok enforce ∧
        CleanIndex scenario variant enforce := by
  have hlive : ∀ enforce, enforcementFor scenario.rule variant.enforcement = .ok enforce →
      ((verify scenario variant none site).map exitStatus = .ok 0 ↔
        CleanIndex scenario variant enforce) := by
    intro enforce henforce
    have hmodel := (enforcementFor_isOk_iff _ _).mp ⟨enforce, henforce⟩
    have hsame : verify scenario variant none site =
        verify scenario variant (some (simulatedStore variant enforce)) site := by
      simp only [verify, runProbes_simulatedStore henforce]
    rw [hsame, exitStatus_verify_clean_iff, cleanIndex_iff, and_iff_right hmodel]
  constructor
  · intro hzero
    rcases Loop.map_eq_ok.mp hzero with ⟨report, hverify, -⟩
    rcases (verify_eq_ok_iff _ _ _ _ _).mp hverify with ⟨-, hrun, -⟩
    rcases (runProbes_eq_ok_iff _ _ _ _ _).mp hrun with ⟨enforce, henforce, -⟩
    exact ⟨enforce, henforce, (hlive enforce henforce).mp hzero⟩
  · intro hclean
    rcases hclean with ⟨enforce, henforce, hclean⟩
    exact (hlive enforce henforce).mpr hclean

/-! ## What the command says -/

section Command

variable {Path : Type} (benchmarks : Benchmarks Path) (repr : String → String)
  (dump : VerificationReport → String)

/-- The command completes exactly when its files load and the variant is verified under the limit
that it states. -/
theorem cmdVerify_eq_ok_iff {path : Path} {pathName variantName : String} {asJson : Bool}
    {lines : List String} {status : Nat} :
    benchmarks.cmdVerify repr dump path pathName variantName asJson = .ok (lines, status) ↔
      ∃ scenario variant annLimit report, benchmarks.scenarioOf path pathName = .ok scenario ∧
        benchmarks.variantOf path variantName = .ok variant ∧
        appliedLimit scenario.probes variant.annLimit = .ok annLimit ∧
        verify scenario (variant.limited annLimit) none "simulated" = .ok report ∧
        lines = (emit repr dump report (pathName ++ "/" ++ variantName) asJson).lines ∧
        status = exitStatus report := by
  simp only [Benchmarks.cmdVerify, Loop.bind_eq_ok, Loop.mapError_eq_ok,
    LoadedVariant.verify_eq_ok_iff]
  constructor
  · intro hcommand
    rcases hcommand with ⟨scenario, hscenario, variant, hvariant, report,
      ⟨annLimit, hlimit, hverify⟩, hprinted⟩
    rw [emit_raised hverify] at hprinted
    cases hprinted
    exact ⟨scenario, variant, annLimit, report, hscenario, hvariant, hlimit, hverify, rfl, rfl⟩
  · intro hcommand
    rcases hcommand with ⟨scenario, variant, annLimit, report, hscenario, hvariant, hlimit, hverify,
      rfl, rfl⟩
    refine ⟨scenario, hscenario, variant, hvariant, report, ⟨annLimit, hlimit, hverify⟩, ?_⟩
    rw [emit_raised hverify]
    rfl

/-- The command exits with zero exactly when the scenario and the variant load, the candidate limit
can be applied, the enforcement model is known, every tag is that of its chunk's one source, every
probe can be run over held chunks, and the model serves a principal the chunks it is entitled to and
no others. -/
theorem cmdVerify_eq_zero_iff {path : Path} {pathName variantName : String} {asJson : Bool} :
    (∃ lines, benchmarks.cmdVerify repr dump path pathName variantName asJson = .ok (lines, 0)) ↔
      ∃ scenario variant annLimit enforce, benchmarks.scenarioOf path pathName = .ok scenario ∧
        benchmarks.variantOf path variantName = .ok variant ∧
        appliedLimit scenario.probes variant.annLimit = .ok annLimit ∧
        enforcementFor scenario.rule variant.enforcement = .ok enforce ∧
        CleanIndex scenario (variant.limited annLimit) enforce := by
  simp only [cmdVerify_eq_ok_iff]
  constructor
  · intro hzero
    rcases hzero with ⟨lines, scenario, variant, annLimit, report, hscenario, hvariant, hlimit,
      hverify, -, hstatus⟩
    rcases (exitStatus_verify_offline_iff _ _ _).mp
      (Loop.map_eq_ok.mpr ⟨report, hverify, hstatus.symm⟩) with ⟨enforce, henforce, hclean⟩
    exact ⟨scenario, variant, annLimit, enforce, hscenario, hvariant, hlimit, henforce, hclean⟩
  · intro hclean
    rcases hclean with ⟨scenario, variant, annLimit, enforce, hscenario, hvariant, hlimit, henforce,
      hclean⟩
    rcases Loop.map_eq_ok.mp ((exitStatus_verify_offline_iff _ _ "simulated").mpr
      ⟨enforce, henforce, hclean⟩) with ⟨report, hverify, hstatus⟩
    exact ⟨_, scenario, variant, annLimit, report, hscenario, hvariant, hlimit, hverify, rfl,
      hstatus.symm⟩

end Command

end Tearline
