import Mathlib.Algebra.Order.Ring.Nat
import Tearline.CandidateLimit
import Tearline.Evaluate.Agreement
import Tearline.Evaluate.Authoring

/-!
# The evaluation command

The registry lists the scenarios of the benchmark and says which of them have a fixture.  The
command verifies every variant of these, scores the report by the expectation files as they stand,
sums up what the scores count, and exits with zero unless one of them has a problem.

Main definitions:

- Definition {lit}`Benchmarks.cmdEvaluate`: the command, as the loop over the registry.
- Definition {lit}`summary`: what it counts, as sums over the runs.

Main results:

- Theorem {lit}`cmdEvaluate_eq_map`: the loop comes to the summary.
- Theorem {lit}`cmdEvaluate_eq_ok_iff`: when the command completes, with what, and when its status
  is zero.
- Theorem {lit}`cmdEvaluate_perm`: the order of the registry does not matter.
-/

namespace Tearline

namespace Evaluate

/-! ## The registry -/

/-- How a command over the registry ends without a status. -/
inductive RegistryFailure
  /-- A file or a directory that cannot be read. -/
  | unreadable
  /-- An operation on the registry raises. -/
  | raised (e : Value.Error)
  | load (e : LoadError)
  | run (e : PyError)
  /-- The expectations are not loaded, or an operation on them raises. -/
  | expectations (e : LoadFailure)
  | check (e : Validator.CheckFailure)

/-- What a directory lists. -/
structure DirEntry where
  name : String
  isDir : Bool
  /-- `(d / "index.yaml").exists()` -/
  hasIndex : Bool
deriving DecidableEq, Repr

/-- The source's `variants_of`. -/
def variantsOf (entries : List DirEntry) : List String :=
  ((entries.filter fun d => d.isDir && d.hasIndex).map DirEntry.name).mergeSort
    fun a b => decide (a ≤ b)

/-- The files the commands read and the functions of other packages by which they are read. -/
structure Benchmarks (Path : Type) extends Files Path where
  /-- `ROOT / text` -/
  locate : String → Path
  /-- `path / name / file` -/
  within : Path → String → String → Path
  /-- How deep expectation files can inherit from one another. -/
  depth : ℕ
  /-- `path.iterdir()` of a directory. -/
  listing? : Path → Option (List DirEntry)
  /-- The documents of a scenario. -/
  shared? : Path → Option ScenarioFiles
  /-- The document of a variant. -/
  index? : Path → String → Option Value
  coerce : Value → Option DateTime

/-- A file that has to be there. -/
def readable {α : Type} : Option α → Except RegistryFailure α
  | none => .error .unreadable
  | some a => .ok a

@[simp]
theorem readable_eq_ok {α : Type} {x : Option α} {a : α} : readable x = .ok a ↔ x = some a := by
  cases x with
  | none => simp [readable]
  | some b => simp [readable]

/-- `registry.get("scenarios") or []` -/
def registered (registry : Value) : Except Value.Error (List Value) := do
  let scenarios ← registry.get "scenarios"
  (scenarios.orElse (.list [])).iterate

/-- What an entry of the registry says is to be done. -/
inductive Planned
  | skipped (slug status : String)
  | recorded (slug path : String)
deriving DecidableEq, Repr

/-- What a turn of the loop over the registry reads of its entry. -/
def plannedOf (render : Value → String) (entry : Value) : Except Value.Error Planned := do
  let status ← entry.subscript "status"
  if asStr status = some "recorded" then
    let path ← entry.subscript "path"
    let slug ← entry.subscript "slug"
    return .recorded (textOf render slug) (textOf render path)
  else
    let slug ← entry.subscript "slug"
    return .skipped (textOf render slug) (textOf render status)

/-! ## Runs -/

/-- One variant that was verified and scored. -/
structure Run where
  slug : String
  name : String
  report : VerificationReport
  score : DocumentScore

/-- `f"{entry['slug']}/{name}:{s}"` for each of its false positives. -/
def Run.tagged (run : Run) : List String :=
  run.score.falsePositives.map fun s => run.slug ++ "/" ++ run.name ++ ":" ++ s

namespace Benchmarks

variable {Path : Type} (benchmarks : Benchmarks Path)

/-- `load_scenario(path, slug)` -/
def scenarioOf (path : Path) (slug : String) : Except RegistryFailure Scenario := do
  let files ← readable (benchmarks.shared? path)
  (loadScenario benchmarks.render benchmarks.coerce slug files).mapError .load

/-- `load_variant(path, name)` -/
def variantOf (path : Path) (name : String) : Except RegistryFailure LoadedVariant := do
  let raw ← readable (benchmarks.index? path name)
  (loadVariant benchmarks.render benchmarks.coerce name raw).mapError .load

/-- `variants_of(path)` -/
def variantNames (path : Path) : Except RegistryFailure (List String) :=
  (readable (benchmarks.listing? path)).map variantsOf

/-- One variant, verified offline and scored by its expectation files. -/
def runVariant (scenario : Scenario) (slug : String) (path : Path) (name : String) :
    Except RegistryFailure Run := do
  let variant ← benchmarks.variantOf path name
  let report ← (variant.verify scenario "simulated").mapError .run
  let score ← (benchmarks.toFiles.score benchmarks.depth (benchmarks.within path name) report slug
    name).mapError .expectations
  return { slug := slug, name := name, report := report, score := score }

end Benchmarks

/-! ## The command -/

/-- A line about an entry or a variant. -/
inductive Line
  /-- `skip  {slug}  ({status})` -/
  | skip (slug status : String)
  /-- `ok    {slug}/{name}  ({checked} checks)` -/
  | ok (slug name : String) (checked : Nat)
  /-- `FAIL  {slug}/{name}`, and a line for each problem -/
  | fail (slug name : String) (problems : List DocumentProblem)

/-- What the command has counted and printed. -/
structure Evaluation where
  failed : Nat := 0
  totalProse : Nat := 0
  negativeSubjects : Nat := 0
  coveredElsewhere : Nat := 0
  falsePositives : List String := []
  lines : List Line := []

/-- The line about a run. -/
def Run.line (run : Run) : Line :=
  if run.score.passed then .ok run.slug run.name run.score.checked
  else .fail run.slug run.name run.score.problems

/-- Count a run. -/
def Evaluation.record (ev : Evaluation) (run : Run) : Evaluation where
  failed := if run.score.passed then ev.failed else ev.failed + 1
  totalProse := ev.totalProse + run.score.uncheckedProse
  negativeSubjects := ev.negativeSubjects + run.score.negativeSubjects
  coveredElsewhere := ev.coveredElsewhere + run.score.coveredElsewhere
  falsePositives := ev.falsePositives ++ run.tagged
  lines := ev.lines ++ [run.line]

/-- Note an entry that is skipped. -/
def Evaluation.skip (ev : Evaluation) (slug status : String) : Evaluation :=
  { ev with lines := ev.lines ++ [.skip slug status] }

namespace Benchmarks

variable {Path : Type} (benchmarks : Benchmarks Path)

/-- The loop over the registry. -/
def entryStep (ev : Evaluation) (entry : Value) : Except RegistryFailure Evaluation := do
  match ← (plannedOf benchmarks.render entry).mapError .raised with
  | .skipped slug status => return ev.skip slug status
  | .recorded slug path =>
      let path := benchmarks.locate path
      let scenario ← benchmarks.scenarioOf path slug
      let names ← benchmarks.variantNames path
      names.foldlM
        (fun ev name => (benchmarks.runVariant scenario slug path name).map ev.record) ev

/-- The source's `_cmd_evaluate`: what it has counted and printed, and the exit status. -/
def cmdEvaluate (registry : Value) : Except RegistryFailure (Evaluation × Nat) := do
  let entries ← (registered registry).mapError .raised
  let ev ← entries.foldlM benchmarks.entryStep {}
  return (ev, if ev.failed ≠ 0 then 1 else 0)

end Benchmarks

/-! ## What an entry comes to -/

/-- What is done about an entry. -/
inductive Outcome
  | skipped (slug status : String)
  | ran (runs : List Run)

/-- The runs of an entry. -/
def Outcome.runs : Outcome → List Run
  | .skipped _ _ => []
  | .ran runs => runs

/-- The lines about an entry. -/
def Outcome.lines : Outcome → List Line
  | .skipped slug status => [.skip slug status]
  | .ran runs => runs.map Run.line

/-- Count what was done about an entry. -/
def Evaluation.add (ev : Evaluation) : Outcome → Evaluation
  | .skipped slug status => ev.skip slug status
  | .ran runs => runs.foldl Evaluation.record ev

/-- What an entry comes to, whatever has been counted before it. -/
def Benchmarks.outcomeOf {Path : Type} (benchmarks : Benchmarks Path) (entry : Value) :
    Except RegistryFailure Outcome := do
  match ← (plannedOf benchmarks.render entry).mapError .raised with
  | .skipped slug status => return .skipped slug status
  | .recorded slug path =>
      let path := benchmarks.locate path
      let scenario ← benchmarks.scenarioOf path slug
      let names ← benchmarks.variantNames path
      let runs ← names.mapM (benchmarks.runVariant scenario slug path)
      return .ran runs

/-- A variant that is loaded, verified under the limit that it states, and scored by the documents
of its directory. -/
structure Benchmarks.Scores {Path : Type} (benchmarks : Benchmarks Path) (scenario : Scenario)
    (slug : String) (path : Path) (name : String) (run : Run) : Prop where
  slug_eq : run.slug = slug
  name_eq : run.name = name
  verified : ∃ variant annLimit, benchmarks.variantOf path name = .ok variant ∧
    appliedLimit scenario.probes variant.annLimit = .ok annLimit ∧
    verify scenario (variant.limited annLimit) none "simulated" = .ok run.report
  scored : ∃ documents, benchmarks.Loads benchmarks.depth (benchmarks.within path name) documents ∧
    documents.score benchmarks.render run.report slug name = .ok run.score

/-- An entry that is skipped, or whose variants are all verified and scored. -/
inductive Benchmarks.Yields {Path : Type} (benchmarks : Benchmarks Path) (entry : Value) :
    Outcome → Prop
  | skipped {slug status : String}
      (hplanned : plannedOf benchmarks.render entry = .ok (.skipped slug status)) :
      Yields benchmarks entry (.skipped slug status)
  | ran {slug path : String} {scenario : Scenario} {names : List String} {runs : List Run}
      (hplanned : plannedOf benchmarks.render entry = .ok (.recorded slug path))
      (hscenario : benchmarks.scenarioOf (benchmarks.locate path) slug = .ok scenario)
      (hnames : benchmarks.variantNames (benchmarks.locate path) = .ok names)
      (hruns : List.Forall₂ (benchmarks.Scores scenario slug (benchmarks.locate path)) names
        runs) :
      Yields benchmarks entry (.ran runs)

section Outcomes

variable {Path : Type} {benchmarks : Benchmarks Path}

theorem runVariant_eq_ok_iff {scenario : Scenario} {slug name : String} {path : Path} {run : Run} :
    benchmarks.runVariant scenario slug path name = .ok run ↔
      benchmarks.Scores scenario slug path name run := by
  simp only [Benchmarks.runVariant, Loop.bind_eq_ok, Loop.mapError_eq_ok, Loop.pure_eq_ok,
    LoadedVariant.verify_eq_ok_iff, Files.score_eq_ok_iff]
  constructor
  · intro hrun
    rcases hrun with ⟨variant, hvariant, report, ⟨annLimit, hlimit, hreport⟩, score,
      ⟨documents, hloads, hscore⟩, rfl⟩
    exact ⟨rfl, rfl, ⟨variant, annLimit, hvariant, hlimit, hreport⟩, ⟨documents, hloads, hscore⟩⟩
  · intro hrun
    rcases hrun with ⟨rfl, rfl, ⟨variant, annLimit, hvariant, hlimit, hreport⟩,
      ⟨documents, hloads, hscore⟩⟩
    exact ⟨variant, hvariant, run.report, ⟨annLimit, hlimit, hreport⟩, run.score,
      ⟨documents, hloads, hscore⟩, rfl⟩

/-- What an entry comes to is what it yields. -/
theorem outcomeOf_eq_ok_iff {entry : Value} {outcome : Outcome} :
    benchmarks.outcomeOf entry = .ok outcome ↔ benchmarks.Yields entry outcome := by
  simp only [Benchmarks.outcomeOf, Loop.bind_eq_ok, Loop.mapError_eq_ok]
  constructor
  · intro hcomes
    rcases hcomes with ⟨planned, hplanned, hrest⟩
    cases planned with
    | skipped slug status =>
        rw [Loop.pure_eq_ok] at hrest
        exact hrest ▸ .skipped hplanned
    | recorded slug path =>
        simp only [Loop.bind_eq_ok, Loop.pure_eq_ok, Loop.mapM_eq_ok_iff,
          runVariant_eq_ok_iff] at hrest
        rcases hrest with ⟨scenario, hscenario, names, hnames, runs, hruns, rfl⟩
        exact .ran hplanned hscenario hnames hruns
  · intro hyields
    cases hyields with
    | skipped hplanned => exact ⟨_, hplanned, rfl⟩
    | ran hplanned hscenario hnames hruns =>
        refine ⟨_, hplanned, ?_⟩
        simp only [Loop.bind_eq_ok, Loop.pure_eq_ok, Loop.mapM_eq_ok_iff, runVariant_eq_ok_iff]
        exact ⟨_, hscenario, _, hnames, _, hruns, rfl⟩

/-- A turn of the loop adds what its entry comes to. -/
theorem entryStep_eq_map (ev : Evaluation) (entry : Value) :
    benchmarks.entryStep ev entry = (benchmarks.outcomeOf entry).map ev.add := by
  unfold Benchmarks.entryStep Benchmarks.outcomeOf
  cases (plannedOf benchmarks.render entry).mapError RegistryFailure.raised with
  | error e => rfl
  | ok planned =>
      cases planned with
      | skipped slug status => rfl
      | recorded slug path =>
          simp only [Loop.foldlM_map_eq_map_mapM, bind, Except.bind]
          cases benchmarks.scenarioOf (benchmarks.locate path) slug with
          | error e => rfl
          | ok scenario =>
              cases benchmarks.variantNames (benchmarks.locate path) with
              | error e => rfl
              | ok names =>
                  dsimp only
                  cases names.mapM (benchmarks.runVariant scenario slug (benchmarks.locate path))
                    with
                  | error e => rfl
                  | ok runs => rfl

end Outcomes

/-! ## What is counted in all -/

/-- What runs come to on top of what has been counted, with the lines about them. -/
def Evaluation.plus (ev : Evaluation) (runs : List Run) (lines : List Line) : Evaluation where
  failed := ev.failed + runs.countP fun run => !run.score.passed
  totalProse := ev.totalProse + (runs.map fun run => run.score.uncheckedProse).sum
  negativeSubjects := ev.negativeSubjects + (runs.map fun run => run.score.negativeSubjects).sum
  coveredElsewhere := ev.coveredElsewhere + (runs.map fun run => run.score.coveredElsewhere).sum
  falsePositives := ev.falsePositives ++ runs.flatMap Run.tagged
  lines := ev.lines ++ lines

/-- What outcomes come to in all. -/
def summary (outcomes : List Outcome) : Evaluation where
  failed := (outcomes.flatMap Outcome.runs).countP fun run => !run.score.passed
  totalProse := ((outcomes.flatMap Outcome.runs).map fun run => run.score.uncheckedProse).sum
  negativeSubjects :=
    ((outcomes.flatMap Outcome.runs).map fun run => run.score.negativeSubjects).sum
  coveredElsewhere :=
    ((outcomes.flatMap Outcome.runs).map fun run => run.score.coveredElsewhere).sum
  falsePositives := (outcomes.flatMap Outcome.runs).flatMap Run.tagged
  lines := outcomes.flatMap Outcome.lines

section Counting

variable (ev : Evaluation)

theorem record_eq_plus (run : Run) : ev.record run = ev.plus [run] [run.line] := by
  cases hpassed : run.score.passed <;> simp [Evaluation.record, Evaluation.plus, hpassed]

theorem skip_eq_plus (slug status : String) :
    ev.skip slug status = ev.plus [] [.skip slug status] := by
  simp [Evaluation.skip, Evaluation.plus]

theorem plus_nil : ev.plus [] [] = ev := by
  simp [Evaluation.plus]

theorem plus_plus (runs runs' : List Run) (lines lines' : List Line) :
    (ev.plus runs lines).plus runs' lines' = ev.plus (runs ++ runs') (lines ++ lines') := by
  simp [Evaluation.plus, Nat.add_assoc]

theorem foldl_record (runs : List Run) :
    runs.foldl Evaluation.record ev = ev.plus runs (runs.map Run.line) := by
  induction runs generalizing ev with
  | nil => exact (plus_nil ev).symm
  | cons run runs ih =>
      rw [List.foldl_cons, ih, record_eq_plus, plus_plus]
      rfl

theorem add_eq_plus (outcome : Outcome) : ev.add outcome = ev.plus outcome.runs outcome.lines := by
  cases outcome with
  | skipped slug status => exact skip_eq_plus ev slug status
  | ran runs => exact foldl_record ev runs

theorem foldl_add (outcomes : List Outcome) :
    outcomes.foldl Evaluation.add ev =
      ev.plus (outcomes.flatMap Outcome.runs) (outcomes.flatMap Outcome.lines) := by
  induction outcomes generalizing ev with
  | nil => exact (plus_nil ev).symm
  | cons outcome outcomes ih =>
      rw [List.foldl_cons, ih, add_eq_plus, plus_plus]
      rfl

end Counting

/-- The status of outcomes. -/
def statusOf (outcomes : List Outcome) : Nat :=
  if (summary outcomes).failed ≠ 0 then 1 else 0

/-- The loop over the registry comes to the summary of what its entries come to. -/
theorem cmdEvaluate_eq_map {Path : Type} (benchmarks : Benchmarks Path) (registry : Value) :
    benchmarks.cmdEvaluate registry =
      (((registered registry).mapError .raised) >>= fun entries =>
        entries.mapM benchmarks.outcomeOf).map fun outcomes =>
          (summary outcomes, statusOf outcomes) := by
  have hsummary : ∀ outcomes : List Outcome,
      outcomes.foldl Evaluation.add {} = summary outcomes := by
    intro outcomes
    rw [foldl_add]
    simp [Evaluation.plus, summary]
  have hstep : benchmarks.entryStep =
      fun ev entry => (benchmarks.outcomeOf entry).map ev.add := by
    funext ev entry
    exact entryStep_eq_map ev entry
  unfold Benchmarks.cmdEvaluate
  cases (registered registry).mapError RegistryFailure.raised with
  | error e => rfl
  | ok entries =>
      simp only [hstep, Loop.foldlM_map_eq_map_mapM, hsummary, bind, Except.bind, statusOf]
      cases entries.mapM benchmarks.outcomeOf with
      | error e => rfl
      | ok outcomes => rfl

/-- The status is zero exactly when every run passes. -/
theorem statusOf_eq_zero_iff (outcomes : List Outcome) :
    statusOf outcomes = 0 ↔
      ∀ outcome ∈ outcomes, ∀ run ∈ outcome.runs, run.score.passed = true := by
  have hfailed : (summary outcomes).failed = 0 ↔
      ∀ outcome ∈ outcomes, ∀ run ∈ outcome.runs, run.score.passed = true := by
    simp only [summary, List.countP_eq_zero, List.forall_mem_flatMap, Bool.not_eq_true',
      Bool.not_eq_false]
  rw [← hfailed, statusOf]
  by_cases hzero : (summary outcomes).failed = 0
  · rw [if_neg (not_not.mpr hzero)]
    exact iff_of_true rfl hzero
  · rw [if_pos hzero]
    exact iff_of_false Nat.one_ne_zero hzero

section Completed

variable {Path : Type} {benchmarks : Benchmarks Path} {registry : Value} {ev : Evaluation}
  {status : Nat}

/-- The command completes exactly when every entry yields something. -/
theorem evaluates_iff :
    benchmarks.cmdEvaluate registry = .ok (ev, status) ↔
      ∃ entries outcomes, registered registry = .ok entries ∧
        List.Forall₂ benchmarks.Yields entries outcomes ∧ ev = summary outcomes ∧
          status = statusOf outcomes := by
  rw [cmdEvaluate_eq_map]
  simp only [Loop.map_eq_ok, Loop.bind_eq_ok, Loop.mapError_eq_ok, Loop.mapM_eq_ok_iff,
    outcomeOf_eq_ok_iff, Prod.mk.injEq]
  constructor
  · intro hcompletes
    rcases hcompletes with ⟨outcomes, ⟨entries, hentries, houtcomes⟩, rfl, rfl⟩
    exact ⟨entries, outcomes, hentries, houtcomes, rfl, rfl⟩
  · intro hcompletes
    rcases hcompletes with ⟨entries, outcomes, hentries, houtcomes, rfl, rfl⟩
    exact ⟨outcomes, ⟨entries, hentries, houtcomes⟩, rfl, rfl⟩

/-- A run whose documents state a truth set passes exactly when its report agrees with it. -/
theorem passed_iff_of_scores {scenario : Scenario} {slug name : String} {path : Path} {run : Run}
    (hrun : benchmarks.Scores scenario slug path name run) {documents : Documents}
    (hloads : benchmarks.Loads benchmarks.depth (benchmarks.within path name) documents)
    {truth : TruthSet} (htruth : documents.truth? benchmarks.render = some truth) :
    run.score.passed = true ↔ Agrees run.report truth := by
  rcases hrun.verified with ⟨variant, annLimit, -, -, hverify⟩
  have hscore : benchmarks.toFiles.score benchmarks.depth (benchmarks.within path name) run.report
      slug name = .ok run.score := Files.score_eq_ok_iff.mpr hrun.scored
  rcases Documents.score_of_truth? htruth run.report slug name with ⟨found, hfound, htells⟩
  cases hscore.symm.trans (Files.score_eq_ok_iff.mpr ⟨documents, hloads, hfound⟩)
  rw [htells.passed_eq]
  exact passed_iff_of_filed (filed_of_verify hverify) _ _ _

/-- The command completes exactly when every entry of the registry is skipped or has all its
variants loaded, verified and scored by their files.  It then counts what the scores of all the runs
count, and its status is zero exactly when none of them has a problem.  Where the files of a variant
state a truth set, its score has none exactly when the report agrees with it. -/
theorem cmdEvaluate_eq_ok_iff :
    (benchmarks.cmdEvaluate registry = .ok (ev, status) ↔
      ∃ entries outcomes, registered registry = .ok entries ∧
        List.Forall₂ benchmarks.Yields entries outcomes ∧ ev = summary outcomes ∧
          (status = 0 ∧ (∀ outcome ∈ outcomes, ∀ run ∈ outcome.runs, run.score.passed = true) ∨
            status = 1 ∧ ∃ outcome ∈ outcomes, ∃ run ∈ outcome.runs,
              ¬ run.score.passed = true)) ∧
      ∀ scenario slug path name run, benchmarks.Scores scenario slug path name run →
        ∀ documents, benchmarks.Loads benchmarks.depth (benchmarks.within path name) documents →
          ∀ truth, documents.truth? benchmarks.render = some truth →
            (run.score.passed = true ↔ Agrees run.report truth) := by
  refine ⟨?_, fun _ _ _ _ _ hrun _ hloads _ htruth => passed_iff_of_scores hrun hloads htruth⟩
  rw [evaluates_iff]
  refine exists_congr fun entries => exists_congr fun outcomes => and_congr_right fun _ =>
    and_congr_right fun _ => and_congr_right fun _ => ?_
  have hzero := statusOf_eq_zero_iff outcomes
  have hone : statusOf outcomes = 0 ∨ statusOf outcomes = 1 := by
    unfold statusOf
    split_ifs
    · exact Or.inr rfl
    · exact Or.inl rfl
  constructor
  · rintro rfl
    by_cases hall : ∀ outcome ∈ outcomes, ∀ run ∈ outcome.runs, run.score.passed = true
    · exact Or.inl ⟨hzero.mpr hall, hall⟩
    · refine Or.inr ⟨hone.resolve_left fun h => hall (hzero.mp h), ?_⟩
      simpa only [not_forall, exists_prop] using hall
  · intro hstatus
    rcases hstatus with ⟨rfl, hall⟩ | ⟨rfl, outcome, houtcome, run, hrun, hnot⟩
    · exact (hzero.mpr hall).symm
    · exact (hone.resolve_left fun h => hnot (hzero.mp h outcome houtcome run hrun)).symm

/-- Where the command completes it does so on the same entries in any order, with the same counts,
the same false positives and lines in some order, and the same status. -/
theorem cmdEvaluate_perm {registry' : Value} {entries entries' : List Value}
    (hentries : registered registry = .ok entries)
    (hentries' : registered registry' = .ok entries') (hperm : entries.Perm entries')
    (hrun : benchmarks.cmdEvaluate registry = .ok (ev, status)) :
    ∃ ev', benchmarks.cmdEvaluate registry' = .ok (ev', status) ∧ ev'.failed = ev.failed ∧
      ev'.totalProse = ev.totalProse ∧ ev'.negativeSubjects = ev.negativeSubjects ∧
      ev'.coveredElsewhere = ev.coveredElsewhere ∧
      ev'.falsePositives.Perm ev.falsePositives ∧ ev'.lines.Perm ev.lines := by
  rcases evaluates_iff.mp hrun with ⟨_, outcomes, hlisted, hyields, rfl, rfl⟩
  cases hentries.symm.trans hlisted
  rcases List.perm_comp_forall₂ hperm.symm hyields with ⟨outcomes', hyields', houtcomes⟩
  have hruns := houtcomes.flatMap_right Outcome.runs
  have hfailed : (summary outcomes').failed = (summary outcomes).failed := hruns.countP_eq _
  have hstatus : statusOf outcomes' = statusOf outcomes := by
    unfold statusOf
    rw [hfailed]
  refine ⟨summary outcomes', evaluates_iff.mpr
    ⟨entries', outcomes', hentries', hyields', rfl, hstatus.symm⟩, hfailed, ?_, ?_, ?_, ?_, ?_⟩
  · exact (hruns.map _).sum_nat
  · exact (hruns.map _).sum_nat
  · exact (hruns.map _).sum_nat
  · exact hruns.flatMap_right _
  · exact houtcomes.flatMap_right _

end Completed

/-! ## A registry in two orders -/

/-- The documents of {lit}`tenanted`. -/
def tenantedFiles : ScenarioFiles where
  documents := .dict [(.str "system", .str "wiki"),
    (.str "documents", .list [.dict [(.str "id", .str "d-payroll"),
      (.str "entitlement", .dict [(.str "state", .str "stated"),
        (.str "tenants", .list [.str "acme"]), (.str "roles", .list [.str "hr"])])]])]
  principals := .dict [(.str "principals", .list
    [.dict [(.str "id", .str "p-acme"), (.str "label", .str "HR at Acme"),
        (.str "tenant", .str "acme"), (.str "roles", .list [.str "hr"])],
      .dict [(.str "id", .str "p-globex"), (.str "label", .str "HR at Globex"),
        (.str "tenant", .str "globex"), (.str "roles", .list [.str "hr"])]])]
  probes := .dict [(.str "probes", .list [.dict [(.str "id", .str "q-payroll"),
    (.str "query", .str "payroll"),
    (.str "principals", .list [.str "p-acme", .str "p-globex"]),
    (.str "matches", .list [.str "c-payroll"])]])]
  rule := some (.dict [(.str "system", .str "wiki"), (.str "rule", .dict
    [(.str "tenant", .str "member"), (.str "role", .str "intersects"),
      (.str "direct", .str "ignored"), (.str "combine", .str "tenant AND role")])])

/-- The document of its index, with a limit that counts as false. -/
def tenantedIndexFile : Value :=
  .dict [(.str "ann_limit", .scalar (.bool false)),
    (.str "chunks", .list [.dict [(.str "id", .str "c-payroll"),
      (.str "source_document_ids", .list [.str "d-payroll"]),
      (.str "entitlement", .dict [(.str "state", .str "stated"),
        (.str "tenants", .list [.str "acme"]), (.str "roles", .list [.str "hr"])])]])]

/-- What is loaded of it. -/
def tenantedLoaded : LoadedVariant where
  name := "clean"
  chunks := tenantedIndex.chunks
  enforcement := "rule"
  annLimit := .scalar (.bool false)
  keyed := tenantedIndex.keyed

/-- A benchmark directory that holds it, a variant of it and what is expected of that. -/
def tenantedBenchmarks : Benchmarks String where
  toFiles := tenantedExpectations
  locate text := text
  within _ name file := name ++ "/" ++ file
  depth := 1
  listing? _ := some [⟨"clean", true, true⟩, ⟨"shared", true, false⟩]
  shared? _ := some tenantedFiles
  index? _ _ := some tenantedIndexFile
  coerce _ := none

/-- Its entry in the registry. -/
def tenantedEntry : Value :=
  .dict [(.str "slug", .str "tenanted"), (.str "path", .str "benchmarks/tenanted"),
    (.str "status", .str "recorded")]

/-- An entry without a fixture. -/
def plannedEntry : Value :=
  .dict [(.str "slug", .str "later"), (.str "status", .str "planned")]

/-- A registry of both. -/
def tenantedRegistry : Value :=
  .dict [(.str "scenarios", .list [tenantedEntry, plannedEntry])]

/-- The same in the other order. -/
def tenantedRegistryTurned : Value :=
  .dict [(.str "scenarios", .list [plannedEntry, tenantedEntry])]

theorem variantNames_tenanted :
    tenantedBenchmarks.variantNames "benchmarks/tenanted" = .ok ["clean"] := by
  simp [Benchmarks.variantNames, tenantedBenchmarks, readable, variantsOf, Except.map]

theorem tenanted_loads : tenantedExpectations.Loads 1 ("clean/" ++ ·)
    { visibility := mappingOf tenantedVisibility } :=
  ⟨rfl, rfl, rfl, rfl⟩

/-- Its variant is scored without a problem. -/
theorem scores_tenanted :
    ∃ score, score.passed = true ∧ tenantedBenchmarks.Scores tenanted "tenanted"
      "benchmarks/tenanted" "clean" ⟨"tenanted", "clean", tenantedReport, score⟩ := by
  have hverify : verify tenanted tenantedIndex none "simulated" = .ok tenantedReport := by
    decide +kernel
  have htruth : Documents.truth? (fun _ => "") { visibility := mappingOf tenantedVisibility } =
      some { visibility := tenantedRows } := rfl
  rcases Documents.score_of_truth? htruth tenantedReport "tenanted" "clean" with
    ⟨found, hfound, htells⟩
  refine ⟨found, ?_, rfl, rfl, ⟨tenantedLoaded, none, rfl, rfl, hverify⟩,
    ⟨_, tenanted_loads, hfound⟩⟩
  rw [htells.passed_eq]
  decide +kernel

theorem cmdEvaluate_tenanted :
    ∃ ev, tenantedBenchmarks.cmdEvaluate tenantedRegistry = .ok (ev, 0) := by
  have hscenario : tenantedBenchmarks.scenarioOf "benchmarks/tenanted" "tenanted" = .ok tenanted :=
    rfl
  rcases scores_tenanted with ⟨score, hpassed, hscores⟩
  have hyields : List.Forall₂ tenantedBenchmarks.Yields [tenantedEntry, plannedEntry]
      [.ran [⟨"tenanted", "clean", tenantedReport, score⟩], .skipped "later" "planned"] :=
    List.Forall₂.cons
      (.ran rfl hscenario variantNames_tenanted (List.Forall₂.cons hscores List.Forall₂.nil))
      (List.Forall₂.cons (.skipped rfl) List.Forall₂.nil)
  have hzero : 0 = statusOf [.ran [⟨"tenanted", "clean", tenantedReport, score⟩],
      .skipped "later" "planned"] := by
    rw [eq_comm, statusOf_eq_zero_iff]
    simpa [Outcome.runs] using hpassed
  exact ⟨_, evaluates_iff.mpr ⟨_, _, rfl, hyields, rfl, hzero⟩⟩

theorem cmdEvaluate_perm_tenanted :
    ∃ ev ev', tenantedBenchmarks.cmdEvaluate tenantedRegistry = .ok (ev, 0) ∧
      tenantedBenchmarks.cmdEvaluate tenantedRegistryTurned = .ok (ev', 0) ∧
      ev'.failed = ev.failed ∧ ev'.totalProse = ev.totalProse ∧
      ev'.negativeSubjects = ev.negativeSubjects ∧ ev'.coveredElsewhere = ev.coveredElsewhere ∧
      ev'.falsePositives.Perm ev.falsePositives ∧ ev'.lines.Perm ev.lines := by
  have hregistered : registered tenantedRegistry = .ok [tenantedEntry, plannedEntry] := rfl
  have hturned : registered tenantedRegistryTurned = .ok [plannedEntry, tenantedEntry] := rfl
  rcases cmdEvaluate_tenanted with ⟨ev, hev⟩
  rcases cmdEvaluate_perm hregistered hturned (List.Perm.swap _ _ _) hev with ⟨ev', hev'⟩
  exact ⟨ev, ev', hev, hev'⟩

end Evaluate

end Tearline
