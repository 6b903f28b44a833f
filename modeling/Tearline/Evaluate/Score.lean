import Mathlib.Data.List.Sort
import Tearline.Domain
import Tearline.Expectations

/-!
# Scoring a report

A report is scored against the authored expectations of its variant, one file after another.
A problem is recorded for everything that differs, and for every subject of the negative set
that was flagged all the same.

Main results:

- Definition {lit}`score`: the whole comparison.
- Theorem {lit}`score_problems`: its problems, file by file.
-/

namespace Tearline

/-! ## Printed values -/

/-- The value of a verdict. -/
def Verdict.value : Verdict → String
  | .verified => "verified"
  | .contradicted => "contradicted"
  | .unverifiable => "unverifiable"

/-- The value of a cause. -/
def MismatchCause.value : MismatchCause → String
  | .propagationFault => "propagation-fault"
  | .drift => "drift"
  | .undetermined => "undetermined"
  | .indeterminateSource => "indeterminate-source"
  | .exceedsSafeBound => "exceeds-safe-bound"

/-- The value of an outcome. -/
def ProbeOutcome.value : ProbeOutcome → String
  | .clean => "clean"
  | .overRetrieval => "over-retrieval"
  | .underRetrieval => "under-retrieval"
  | .both => "both"
  | .notRun => "not-run"

namespace Evaluate

/-! ## Problems -/

/-- A problem, with what its text interpolates. -/
inductive Problem
  /-- `missed propagation finding on …` -/
  | missedFinding (chunkId : String)
  /-- `… verdict … != …` -/
  | verdictDiffers (chunkId actual expected : String)
  /-- `… cause … != …` -/
  | causeDiffers (chunkId actual expected : String)
  /-- `unexpected propagation finding on …` -/
  | unexpectedFinding (chunkId : String)
  /-- `… … != …` of a count -/
  | countDiffers (field : String) (actual : Nat) (expected : Int)
  /-- `forbidden verdict … on …` -/
  | forbiddenVerdict (verdict chunkId : String)
  /-- `forbidden cause … on …` -/
  | forbiddenCause (cause chunkId : String)
  /-- `… expected but not produced` -/
  | notProduced (key : String × String)
  /-- `… … … != …` of a list -/
  | listDiffers (key : String × String) (label : ListLabel) (actual expected : Finset String)
  /-- `… outcome … != …` -/
  | outcomeDiffers (key : String × String) (actual expected : String)
  /-- `… produced but not expected` -/
  | notExpected (key : String × String)
  /-- `probes_skipped … != …` -/
  | skippedDiffers (actual expected : List String)
  /-- `false positive: … is in the negative set and was flagged` -/
  | falsePositive (subject : String)
  /-- `… expected unverifiable, got …` -/
  | notUnverifiable (chunkId got : String)
  /-- `… expected skipped and was not` -/
  | notSkipped (subject : String)
  /-- `…: no finding on …` -/
  | noFinding (subject chunkId : String)
  /-- `…: cause …, expected undetermined` -/
  | causeDetermined (subject cause : String)
  /-- `expected_unverifiable subject … is in no form the scorer recognises, so this
  expectation was not checked` -/
  | unrecognised (subject : String)
deriving DecidableEq

/-- The outcome of scoring one variant. -/
structure Score where
  scenario : String
  variant : String
  problems : List Problem := []
  checked : Nat := 0
  uncheckedProse : Nat := 0
  negativeSubjects : Nat := 0
  falsePositives : List String := []
  coveredElsewhere : Nat := 0
deriving DecidableEq

/-- Passed without a problem. -/
def Score.passed (result : Score) : Bool :=
  result.problems.isEmpty

/-- Record problems. -/
def Score.note (result : Score) (problems : List Problem) : Score :=
  { result with problems := result.problems ++ problems }

/-- Count one check and record its problems. -/
def Score.check (result : Score) (problems : List Problem) : Score :=
  { result with checked := result.checked + 1, problems := result.problems ++ problems }

@[simp]
theorem Score.note_problems (result : Score) (problems : List Problem) :
    (result.note problems).problems = result.problems ++ problems :=
  rfl

@[simp]
theorem Score.note_falsePositives (result : Score) (problems : List Problem) :
    (result.note problems).falsePositives = result.falsePositives :=
  rfl

@[simp]
theorem Score.check_problems (result : Score) (problems : List Problem) :
    (result.check problems).problems = result.problems ++ problems :=
  rfl

@[simp]
theorem Score.check_falsePositives (result : Score) (problems : List Problem) :
    (result.check problems).falsePositives = result.falsePositives :=
  rfl

/-- What a score says of precision: the false positives and how many subjects there were. -/
def Score.precision (result : Score) : List String × Nat :=
  (result.falsePositives, result.negativeSubjects)

@[simp]
theorem Score.note_precision (result : Score) (problems : List Problem) :
    (result.note problems).precision = result.precision :=
  rfl

@[simp]
theorem Score.check_precision (result : Score) (problems : List Problem) :
    (result.check problems).precision = result.precision :=
  rfl

/-! ## The propagation axis -/

/-- A stated value; an empty one counts as none. -/
def stated (value : Option String) : Option String :=
  value.filter fun text => decide (text ≠ "")

/-- A row of `expected_findings`. -/
def findingProblems (findings : Dict String PropagationFinding) (row : FindingRow) :
    List Problem :=
  match findings.get? row.chunkId with
  | none => [.missedFinding row.chunkId]
  | some finding =>
      (match stated row.verdict with
        | none => []
        | some verdict =>
            if finding.verdict.value ≠ verdict then
              [.verdictDiffers row.chunkId finding.verdict.value verdict]
            else []) ++
      (match stated row.cause with
        | none => []
        | some cause =>
            if finding.cause.value ≠ cause then
              [.causeDiffers row.chunkId finding.cause.value cause]
            else [])

/-- The chunks whose findings are expected. -/
def expectedIds (document : ExpectedPropagation) : Finset String :=
  (document.expectedFindings.map FindingRow.chunkId).toFinset

/-- A finding of a chunk that is not expected to have one. -/
def unexpectedProblems (findings : Dict String PropagationFinding) (expected : Finset String) :
    List Problem :=
  (findings.keys.filter fun chunkId => decide (chunkId ∉ expected)).map .unexpectedFinding

/-- A count that the file states. -/
def scoreCount (field : String) (actual : Nat) (expected : Option Int) (result : Score) :
    Score :=
  match expected with
  | none => result
  | some count =>
      result.check (if (actual : Int) ≠ count then [.countDiffers field actual count] else [])

/-- A row of `forbidden_verdicts`. -/
def forbiddenVerdictProblems (findings : Dict String PropagationFinding) (row : ForbiddenRow) :
    List Problem :=
  match findings.get? row.chunkId with
  | none => []
  | some finding =>
      if finding.verdict.value = row.value then [.forbiddenVerdict row.value row.chunkId] else []

/-- A row of `forbidden_causes`. -/
def forbiddenCauseProblems (findings : Dict String PropagationFinding) (row : ForbiddenRow) :
    List Problem :=
  match findings.get? row.chunkId with
  | none => []
  | some finding =>
      if finding.cause.value = row.value then [.forbiddenCause row.value row.chunkId] else []

/-- The first file. -/
def scorePropagation (report : VerificationReport)
    (findings : Dict String PropagationFinding) (document : ExpectedPropagation)
    (result : Score) : Score :=
  let result := document.expectedFindings.foldl
    (fun result row => result.check (findingProblems findings row)) result
  let result := result.note (unexpectedProblems findings (expectedIds document))
  let result := scoreCount "chunks_examined" report.chunksExamined document.chunksExamined result
  let result :=
    scoreCount "chunks_untraceable" report.chunksUntraceable document.chunksUntraceable result
  let result := document.forbiddenVerdicts.foldl
    (fun result row => result.check (forbiddenVerdictProblems findings row)) result
  document.forbiddenCauses.foldl
    (fun result row => result.check (forbiddenCauseProblems findings row)) result

/-! ## Visibility -/

/-- The probe and the principal of a result. -/
def keyOf (r : ProbeResult) : String × String :=
  (r.probeId, r.principalId)

/-- The results of a report by key; of two with one key the later is kept. -/
def resultsByKey (report : VerificationReport) : Dict (String × String) ProbeResult :=
  Dict.ofValues keyOf report.probes

/-- The list of a result that a label names. -/
def resultList (r : ProbeResult) : ListLabel → Finset String
  | .visible => r.returned.toFinset
  | .overRetrieved => r.overRetrieved
  | .underRetrieved => r.underRetrieved
  | .undeterminedReturned => r.undeterminedReturned
  | .absentFromIndex => r.absentFromIndex

/-- The labels in the order in which they are compared. -/
def listLabels : List ListLabel :=
  [.visible, .overRetrieved, .underRetrieved, .undeterminedReturned, .absentFromIndex]

/-- One list of a row, compared only if the row has the label. -/
def listProblem (row : VisibilityRow) (r : ProbeResult) (label : ListLabel) : Option Problem :=
  match row.authored label with
  | none => none
  | some authored =>
      if authored.toFinset ≠ resultList r label then
        some (.listDiffers row.key label (resultList r label) authored.toFinset)
      else none

/-- A row of `visibility`. -/
def rowProblems (byKey : Dict (String × String) ProbeResult) (row : VisibilityRow) :
    List Problem :=
  match byKey.get? row.key with
  | none => [.notProduced row.key]
  | some probe =>
      listLabels.filterMap (listProblem row probe) ++
      (match stated row.outcome with
        | none => []
        | some outcome =>
            if probe.outcome.value ≠ outcome then
              [.outcomeDiffers row.key probe.outcome.value outcome]
            else [])

/-- A result without a row. -/
def notExpectedProblems (byKey : Dict (String × String) ProbeResult)
    (rows : List VisibilityRow) : List Problem :=
  (byKey.keysExcept (rows.map VisibilityRow.key)).map .notExpected

/-- The skipped probes, if the file states them. -/
def scoreSkipped (report : VerificationReport) (document : ExpectedVisibility)
    (result : Score) : Score :=
  match document.probesSkipped with
  | none => result
  | some expected =>
      result.check (if expected.toFinset ≠ report.probesSkipped.toFinset then
        [.skippedDiffers report.probesSkipped expected] else [])

/-- The second file. -/
def scoreVisibility (report : VerificationReport) (document : ExpectedVisibility)
    (result : Score) : Score :=
  let byKey := resultsByKey report
  let result := document.visibility.foldl
    (fun result row => result.check (rowProblems byKey row)) result
  let result := result.note (notExpectedProblems byKey document.visibility)
  scoreSkipped report document result

/-! ## The negative set -/

/-- The rows that are expected to be defective. -/
def expectedDefects (document : ExpectedVisibility) : Finset (String × String) :=
  ((document.visibility.filter fun row =>
    decide (row.overRetrieved.getD [] ≠ [] ∨ row.underRetrieved.getD [] ≠ [])).map
      VisibilityRow.key).toFinset

/-- A result whose row is not expected to be defective. -/
def scoreProbeRow (defects : Finset (String × String)) (result : Score) (probe : ProbeResult) :
    Score :=
  if keyOf probe ∈ defects then result
  else
    { result with
      negativeSubjects := result.negativeSubjects + 1
      falsePositives := result.falsePositives ++
        (if probe.overRetrieved ≠ ∅ ∨ probe.underRetrieved ≠ ∅ then
          [probe.probeId ++ "/" ++ probe.principalId] else []) }

/-- The false positives of a named subject. -/
def namedFalsePositives (findings : Dict String PropagationFinding)
    (flaggedProbes : Finset String) (subject : NegativeSubject) : List String :=
  (subject.chunk.filter fun chunk => (findings.get? chunk).isSome).toList ++
    (subject.probe.filter fun probe => decide (probe ∈ flaggedProbes)).toList

/-- An entry of `must_not_flag`. -/
def scoreNegativeRow (findings : Dict String PropagationFinding)
    (flaggedProbes : Finset String) (result : Score) (row : NegativeRow) : Score :=
  match row.subject with
  | none =>
      if row.coveredBy then { result with coveredElsewhere := result.coveredElsewhere + 1 }
      else { result with uncheckedProse := result.uncheckedProse + 1 }
  | some subject =>
      { result with
        checked := result.checked + 1
        falsePositives :=
          result.falsePositives ++ namedFalsePositives findings flaggedProbes subject }

/-- `sorted(set(xs))` -/
def sortedSet (xs : List String) : List String :=
  xs.dedup.mergeSort fun a b => decide (a ≤ b)

/-- The source's `_score_negative_set`: chunks, probe rows and named subjects. -/
def scoreNegativeSet (result : Score) (clean : ExpectedClean)
    (findings : Dict String PropagationFinding) (report : VerificationReport)
    (expectedFindings : Finset String) (defects : Finset (String × String)) : Score :=
  let silentChunks := report.chunksExamined - expectedFindings.card
  let result :=
    { result with
      negativeSubjects := result.negativeSubjects + silentChunks
      falsePositives := result.falsePositives ++
        findings.keys.filter fun chunkId => decide (chunkId ∉ expectedFindings) }
  let result := report.probes.foldl (scoreProbeRow defects) result
  let flaggedProbes :=
    ((report.probes.filter fun p => decide (p.verdict.value = "contradicted")).map
      ProbeResult.probeId).toFinset
  let result := clean.mustNotFlag.foldl (scoreNegativeRow findings flaggedProbes) result
  let subjects := sortedSet result.falsePositives
  { result.note (subjects.map .falsePositive) with falsePositives := subjects }

/-- The third file. -/
def scoreClean (report : VerificationReport) (findings : Dict String PropagationFinding)
    (truth : TruthSet) (result : Score) : Score :=
  let result :=
    { result with
      uncheckedProse := result.uncheckedProse + truth.clean.mustNotConclude.length +
        truth.clean.propertiesAbsent.length }
  scoreNegativeSet result truth.clean findings report (expectedIds truth.propagation)
    (expectedDefects truth.visibility)

/-! ## What cannot be verified -/

/-- `text.startswith(start)` -/
def startsWith (start text : String) : Bool :=
  start.toList.isPrefixOf text.toList

/-- `text.endswith(finish)` -/
def endsWith (finish text : String) : Bool :=
  finish.toList.isSuffixOf text.toList

/-- The text after a start it has. -/
def dropStart (start text : String) : String :=
  String.ofList (text.toList.drop start.toList.length)

/-- `text.removesuffix(finish)` -/
def removeEnd (finish text : String) : String :=
  if endsWith finish text then
    String.ofList (text.toList.take (text.toList.length - finish.toList.length))
  else text

/-- An entry of `expected_unverifiable`. -/
def subjectProblems (report : VerificationReport) (findings : Dict String PropagationFinding)
    (subject : String) : List Problem :=
  if startsWith "chunk " subject then
    let chunkId := dropStart "chunk " subject
    match findings.get? chunkId with
    | none => [.notUnverifiable chunkId "no finding"]
    | some finding =>
        if finding.verdict.value ≠ "unverifiable" then
          [.notUnverifiable chunkId finding.verdict.value]
        else []
  else if startsWith "probe " subject then
    if dropStart "probe " subject ∉ report.probesSkipped then [.notSkipped subject] else []
  else if startsWith "cause of the " subject && endsWith " mismatch" subject then
    let chunkId := removeEnd " mismatch" (dropStart "cause of the " subject)
    match findings.get? chunkId with
    | none => [.noFinding subject chunkId]
    | some finding =>
        if finding.cause.value ≠ "undetermined" then
          [.causeDetermined subject finding.cause.value]
        else []
  else [.unrecognised subject]

/-- The fourth file. -/
def scoreUnverifiable (report : VerificationReport)
    (findings : Dict String PropagationFinding) (subjects : List String) (result : Score) :
    Score :=
  subjects.foldl (fun result subject => result.check (subjectProblems report findings subject))
    result

/-! ## The whole score -/

/-- Score a report against a variant's expectations. -/
def score (report : VerificationReport) (truth : TruthSet) (scenario variant : String) : Score :=
  let findings := Dict.ofValues PropagationFinding.chunkId report.propagation
  let result : Score := { scenario := scenario, variant := variant }
  let result := scorePropagation report findings truth.propagation result
  let result := scoreVisibility report truth.visibility result
  let result := scoreClean report findings truth result
  scoreUnverifiable report findings truth.unverifiable result

/-! ## The problems, file by file -/

/-- The problems of a count. -/
def countProblems (field : String) (actual : Nat) (expected : Option Int) : List Problem :=
  match expected with
  | none => []
  | some count => if (actual : Int) ≠ count then [.countDiffers field actual count] else []

/-- The problems of the first file. -/
def propagationProblems (report : VerificationReport)
    (findings : Dict String PropagationFinding) (document : ExpectedPropagation) :
    List Problem :=
  document.expectedFindings.flatMap (findingProblems findings) ++
    unexpectedProblems findings (expectedIds document) ++
    countProblems "chunks_examined" report.chunksExamined document.chunksExamined ++
    countProblems "chunks_untraceable" report.chunksUntraceable document.chunksUntraceable ++
    document.forbiddenVerdicts.flatMap (forbiddenVerdictProblems findings) ++
    document.forbiddenCauses.flatMap (forbiddenCauseProblems findings)

/-- The problem of the skipped probes. -/
def skippedProblems (report : VerificationReport) (document : ExpectedVisibility) :
    List Problem :=
  match document.probesSkipped with
  | none => []
  | some expected =>
      if expected.toFinset ≠ report.probesSkipped.toFinset then
        [.skippedDiffers report.probesSkipped expected] else []

/-- The problems of the second file. -/
def visibilityProblems (report : VerificationReport) (document : ExpectedVisibility) :
    List Problem :=
  document.visibility.flatMap (rowProblems (resultsByKey report)) ++
    notExpectedProblems (resultsByKey report) document.visibility ++
    skippedProblems report document

/-- The false positives of a result. -/
def probeFalsePositives (defects : Finset (String × String)) (probe : ProbeResult) :
    List String :=
  if keyOf probe ∈ defects then []
  else if probe.overRetrieved ≠ ∅ ∨ probe.underRetrieved ≠ ∅ then
    [probe.probeId ++ "/" ++ probe.principalId]
  else []

/-- The probes with a contradicted result. -/
def flaggedProbes (report : VerificationReport) : Finset String :=
  ((report.probes.filter fun p => decide (p.verdict.value = "contradicted")).map
    ProbeResult.probeId).toFinset

/-- The false positives of an entry of the negative set. -/
def rowFalsePositives (findings : Dict String PropagationFinding) (flagged : Finset String)
    (row : NegativeRow) : List String :=
  match row.subject with
  | none => []
  | some subject => namedFalsePositives findings flagged subject

/-- Every false positive of the third file, with repetitions. -/
def falsePositiveSubjects (report : VerificationReport)
    (findings : Dict String PropagationFinding) (truth : TruthSet) : List String :=
  (findings.keys.filter fun chunkId => decide (chunkId ∉ expectedIds truth.propagation)) ++
    report.probes.flatMap (probeFalsePositives (expectedDefects truth.visibility)) ++
    truth.clean.mustNotFlag.flatMap (rowFalsePositives findings (flaggedProbes report))

section Stages

variable {α : Type} (result : Score)

/-- A stage that only checks appends the problems of its items. -/
theorem foldl_check (f : α → List Problem) (items : List α) :
    (items.foldl (fun result item => result.check (f item)) result).problems =
        result.problems ++ items.flatMap f ∧
      (items.foldl (fun result item => result.check (f item)) result).falsePositives =
        result.falsePositives := by
  induction items generalizing result with
  | nil => simp
  | cons item items ih =>
      rcases ih (result.check (f item)) with ⟨hproblems, hpositives⟩
      rw [List.foldl_cons, hproblems, hpositives]
      simp

theorem scoreCount_problems (field : String) (actual : Nat) (expected : Option Int) :
    (scoreCount field actual expected result).problems =
        result.problems ++ countProblems field actual expected ∧
      (scoreCount field actual expected result).falsePositives = result.falsePositives := by
  cases expected with
  | none => simp [scoreCount, countProblems]
  | some count => simp [scoreCount, countProblems]

theorem scorePropagation_problems (report : VerificationReport)
    (findings : Dict String PropagationFinding) (document : ExpectedPropagation) :
    (scorePropagation report findings document result).problems =
        result.problems ++ propagationProblems report findings document ∧
      (scorePropagation report findings document result).falsePositives =
        result.falsePositives := by
  simp only [scorePropagation, (foldl_check _ _ _).1, (foldl_check _ _ _).2,
    (scoreCount_problems _ _ _ _).1, (scoreCount_problems _ _ _ _).2, Score.note_problems,
    Score.note_falsePositives, propagationProblems, List.append_assoc, and_self]

theorem scoreSkipped_problems (report : VerificationReport) (document : ExpectedVisibility) :
    (scoreSkipped report document result).problems =
        result.problems ++ skippedProblems report document ∧
      (scoreSkipped report document result).falsePositives = result.falsePositives := by
  unfold scoreSkipped skippedProblems
  cases document.probesSkipped with
  | none => simp
  | some expected => simp

theorem scoreVisibility_problems (report : VerificationReport) (document : ExpectedVisibility) :
    (scoreVisibility report document result).problems =
        result.problems ++ visibilityProblems report document ∧
      (scoreVisibility report document result).falsePositives = result.falsePositives := by
  simp only [scoreVisibility, (scoreSkipped_problems _ _ _).1, (scoreSkipped_problems _ _ _).2,
    Score.note_problems, Score.note_falsePositives, (foldl_check _ _ _).1, (foldl_check _ _ _).2,
    visibilityProblems, List.append_assoc, and_self]

theorem foldl_scoreProbeRow (defects : Finset (String × String)) (probes : List ProbeResult) :
    (probes.foldl (scoreProbeRow defects) result).problems = result.problems ∧
      (probes.foldl (scoreProbeRow defects) result).falsePositives =
        result.falsePositives ++ probes.flatMap (probeFalsePositives defects) := by
  induction probes generalizing result with
  | nil => simp
  | cons probe probes ih =>
      rcases ih (scoreProbeRow defects result probe) with ⟨hproblems, hpositives⟩
      rw [List.foldl_cons, hproblems, hpositives]
      unfold scoreProbeRow
      rw [List.flatMap_cons, probeFalsePositives]
      split_ifs <;> simp

theorem foldl_scoreNegativeRow (findings : Dict String PropagationFinding)
    (flagged : Finset String) (rows : List NegativeRow) :
    (rows.foldl (scoreNegativeRow findings flagged) result).problems = result.problems ∧
      (rows.foldl (scoreNegativeRow findings flagged) result).falsePositives =
        result.falsePositives ++ rows.flatMap (rowFalsePositives findings flagged) := by
  induction rows generalizing result with
  | nil => simp
  | cons row rows ih =>
      rcases ih (scoreNegativeRow findings flagged result row) with ⟨hproblems, hpositives⟩
      rw [List.foldl_cons, hproblems, hpositives]
      unfold scoreNegativeRow
      rw [List.flatMap_cons, rowFalsePositives]
      cases row.subject with
      | none => dsimp only; split_ifs <;> simp
      | some subject => simp

theorem scoreClean_problems (report : VerificationReport)
    (findings : Dict String PropagationFinding) (truth : TruthSet) :
    (scoreClean report findings truth result).problems = result.problems ++
      (sortedSet (result.falsePositives ++ falsePositiveSubjects report findings truth)).map
        .falsePositive := by
  simp only [scoreClean, scoreNegativeSet, Score.note, (foldl_scoreNegativeRow _ _ _ _).1,
    (foldl_scoreNegativeRow _ _ _ _).2, (foldl_scoreProbeRow _ _ _).1,
    (foldl_scoreProbeRow _ _ _).2, falsePositiveSubjects, flaggedProbes, List.append_assoc]

end Stages

/-- The problems of a score, file by file. -/
theorem score_problems (report : VerificationReport) (truth : TruthSet)
    (scenario variant : String) :
    (score report truth scenario variant).problems =
      let findings := Dict.ofValues PropagationFinding.chunkId report.propagation
      propagationProblems report findings truth.propagation ++
        visibilityProblems report truth.visibility ++
        (sortedSet (falsePositiveSubjects report findings truth)).map .falsePositive ++
        truth.unverifiable.flatMap (subjectProblems report findings) := by
  simp only [score, scoreUnverifiable, (foldl_check _ _ _).1, scoreClean_problems,
    (scoreVisibility_problems _ _ _).1, (scoreVisibility_problems _ _ _).2,
    (scorePropagation_problems _ _ _ _).1, (scorePropagation_problems _ _ _ _).2,
    List.nil_append]

/-! ## Precision -/

section Stages

variable {α : Type} (result : Score)

theorem foldl_check_precision (f : α → List Problem) (items : List α) :
    (items.foldl (fun result item => result.check (f item)) result).precision =
      result.precision := by
  induction items generalizing result with
  | nil => rfl
  | cons item items ih => rw [List.foldl_cons, ih, Score.check_precision]

theorem scoreCount_precision (field : String) (actual : Nat) (expected : Option Int) :
    (scoreCount field actual expected result).precision = result.precision := by
  cases expected with
  | none => rfl
  | some count => rfl

theorem scorePropagation_precision (report : VerificationReport)
    (findings : Dict String PropagationFinding) (document : ExpectedPropagation) :
    (scorePropagation report findings document result).precision = result.precision := by
  simp only [scorePropagation, foldl_check_precision, scoreCount_precision,
    Score.note_precision]

theorem scoreVisibility_precision (report : VerificationReport)
    (document : ExpectedVisibility) :
    (scoreVisibility report document result).precision = result.precision := by
  unfold scoreVisibility scoreSkipped
  cases document.probesSkipped with
  | none => simp only [Score.note_precision, foldl_check_precision]
  | some expected => simp only [Score.check_precision, Score.note_precision,
      foldl_check_precision]

/-- The rows that are not expected to be defective are counted. -/
theorem foldl_scoreProbeRow_negativeSubjects (defects : Finset (String × String))
    (probes : List ProbeResult) :
    (probes.foldl (scoreProbeRow defects) result).negativeSubjects =
      result.negativeSubjects + probes.countP fun r => decide (keyOf r ∉ defects) := by
  induction probes generalizing result with
  | nil => rfl
  | cons probe probes ih =>
      rw [List.foldl_cons, ih, List.countP_cons]
      unfold scoreProbeRow
      by_cases hdefect : keyOf probe ∈ defects
      · simp [hdefect]
      · simp [hdefect, Nat.add_assoc, Nat.add_comm 1]

theorem foldl_scoreNegativeRow_negativeSubjects (findings : Dict String PropagationFinding)
    (flagged : Finset String) (rows : List NegativeRow) :
    (rows.foldl (scoreNegativeRow findings flagged) result).negativeSubjects =
      result.negativeSubjects := by
  induction rows generalizing result with
  | nil => rfl
  | cons row rows ih =>
      rw [List.foldl_cons, ih, scoreNegativeRow]
      cases row.subject with
      | none => dsimp only; split_ifs <;> rfl
      | some subject => rfl

/-- The third file settles what a score says of precision. -/
theorem scoreClean_precision (report : VerificationReport)
    (findings : Dict String PropagationFinding) (truth : TruthSet) :
    (scoreClean report findings truth result).precision =
      (sortedSet (result.falsePositives ++ falsePositiveSubjects report findings truth),
        result.negativeSubjects + (report.chunksExamined - (expectedIds truth.propagation).card) +
          report.probes.countP fun r => decide (keyOf r ∉ expectedDefects truth.visibility)) := by
  simp only [Score.precision, scoreClean, scoreNegativeSet, Score.note,
    (foldl_scoreNegativeRow _ _ _ _).2, (foldl_scoreProbeRow _ _ _).2, falsePositiveSubjects,
    flaggedProbes, List.append_assoc, foldl_scoreNegativeRow_negativeSubjects,
    foldl_scoreProbeRow_negativeSubjects]

end Stages

/-- The false positives of a score and the number of its negative subjects. -/
theorem score_precision (report : VerificationReport) (truth : TruthSet)
    (scenario variant : String) :
    (score report truth scenario variant).precision =
      (sortedSet (falsePositiveSubjects report
          (Dict.ofValues PropagationFinding.chunkId report.propagation) truth),
        report.chunksExamined - (expectedIds truth.propagation).card +
          report.probes.countP fun r => decide (keyOf r ∉ expectedDefects truth.visibility)) := by
  have hbefore : ∀ result : Score, result.precision = ([], 0) →
      result.falsePositives = [] ∧ result.negativeSubjects = 0 := by
    intro result hprecision
    exact Prod.mk.inj hprecision
  simp only [score, scoreUnverifiable, foldl_check_precision, scoreClean_precision]
  rcases hbefore _ ((scoreVisibility_precision _ report truth.visibility).trans
    (scorePropagation_precision { scenario := scenario, variant := variant } report
      (Dict.ofValues PropagationFinding.chunkId report.propagation) truth.propagation)) with
    ⟨hpositives, hsubjects⟩
  rw [hpositives, hsubjects, List.nil_append, Nat.zero_add]

end Evaluate

end Tearline
