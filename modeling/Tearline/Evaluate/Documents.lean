import Tearline.Evaluate.Load
import Tearline.Evaluate.Score

/-!
# Scoring by the documents

The scorer does not decode an expectation file before it reads it.  It looks a key up when it comes
to it, makes a text of what has to be one, iterates over whatever stands where a list should and
compares the rest without asking for its type.  An entry that is malformed raises where it is
reached.

Main definitions:

- Definition {lit}`Documents.score`: the comparison with four loaded documents.
- Definition {lit}`Files.score`: the same, with each document loaded when it is needed.

Main results:

- Theorem {lit}`Files.score_eq_ok_iff`: the second completes where the documents load and the first
  does.
-/

namespace Tearline

/-- The key of a label in a row. -/
def ListLabel.rowKey : ListLabel → String
  | .visible => "visible"
  | .overRetrieved => "over_retrieved"
  | .underRetrieved => "under_retrieved"
  | .undeterminedReturned => "undetermined_returned"
  | .absentFromIndex => "absent_from_index"

namespace Evaluate

/-! ## What is recorded -/

/-- A problem with what its text interpolates, where that can be a value of the document. -/
inductive DocumentProblem
  /-- A problem whose text interpolates no more than texts. -/
  | plain (problem : Problem)
  /-- `… … != …` of a count -/
  | countDiffers (field : String) (actual : Nat) (expected : Value)
  /-- `… … … != …` of a list -/
  | listDiffers (key : String × String) (label : ListLabel) (actual : Finset String)
      (expected : List Value)
  /-- `probes_skipped … != …` -/
  | skippedDiffers (actual : List String) (expected : List Value)

/-- The outcome of scoring one variant by its documents. -/
structure DocumentScore where
  scenario : String
  variant : String
  problems : List DocumentProblem := []
  checked : Nat := 0
  uncheckedProse : Nat := 0
  negativeSubjects : Nat := 0
  falsePositives : List String := []
  coveredElsewhere : Nat := 0

namespace DocumentScore

/-- `not self.problems` -/
def passed (result : DocumentScore) : Bool :=
  result.problems.isEmpty

/-- Record problems. -/
def note (result : DocumentScore) (problems : List DocumentProblem) : DocumentScore :=
  { result with problems := result.problems ++ problems }

/-- Count one check and record its problems. -/
def check (result : DocumentScore) (problems : List DocumentProblem) : DocumentScore :=
  { result with checked := result.checked + 1, problems := result.problems ++ problems }

end DocumentScore

/-! ## What is looked up -/

/-- `document.get(key)` -/
def valueAt (document : Mapping) (key : String) : Value :=
  (document.get? (.str key)).getD .null

/-- What a loop over `document.get(key) or []` runs through. -/
def rowsAt (document : Mapping) (key : String) : Except Value.Error (List Value) :=
  ((valueAt document key).orElse (.list [])).iterate

/-- What stands under a key can be iterated over, and everything this gives meets a condition. -/
def EachRow (document : Mapping) (key : String) (condition : Value → Prop) : Prop :=
  ∃ rows, rowsAt document key = .ok rows ∧ ∀ row ∈ rows, condition row

/-- `str(row[key])` -/
def textAt (render : Value → String) (row : Value) (key : String) :
    Except Value.Error String :=
  (row.subscript key).map (textOf render)

/-- `(str(row["probe"]), str(row["principal"]))` -/
def keyAt (render : Value → String) (row : Value) : Except Value.Error (String × String) := do
  let probe ← textAt render row "probe"
  let principal ← textAt render row "principal"
  return (probe, principal)

/-- The value under a key if it counts as true and is not the actual text:
`row.get(key) and actual != row[key]`. -/
def differing? (row : Value) (key actual : String) : Except Value.Error (Option Value) := do
  let expected ← row.get key
  if expected.truthy && !decide (asStr expected = some actual) then return some expected
  else return none

/-- `set(items) == texts` -/
def sameTexts (items : List Value) (texts : Finset String) : Bool :=
  decide ((asStrs items).map List.toFinset = some texts)

/-- What is authored of a list that is not the actual one.  The text of its problem has it sorted,
which raises where its items are of several types. -/
def differingList? (authored : Value) (actual : Finset String) :
    Except Value.Error (Option (List Value)) := do
  let items ← (authored.orElse (.list [])).elements
  if sameTexts items actual then return none
  else if Value.sortable items then return some items
  else throw .typeError

/-- `actual == value` of a count. -/
def sameCount (value : Value) (actual : Nat) : Bool :=
  match value with
  | .scalar s => decide (s.int? = some (actual : Int))
  | .list _ => false
  | .dict _ => false

/-! ## The propagation axis -/

section Scorer

variable (render : Value → String)

/-- A loop that counts each row and records its problems. -/
def checkRows (problems : Value → Except Value.Error (List DocumentProblem)) (rows : List Value)
    (result : DocumentScore) : Except Value.Error DocumentScore :=
  rows.foldlM (fun result row => (problems row).map result.check) result

/-- A row of `expected_findings`. -/
def findingRow (findings : Dict String PropagationFinding) (row : Value) :
    Except Value.Error (List DocumentProblem) := do
  let chunkId ← textAt render row "chunk_id"
  match findings.get? chunkId with
  | none => return [.plain (.missedFinding chunkId)]
  | some finding =>
      let verdict ← differing? row "verdict" finding.verdict.value
      let cause ← differing? row "cause" finding.cause.value
      return (verdict.map fun value =>
          .plain (.verdictDiffers chunkId finding.verdict.value (textOf render value))).toList ++
        (cause.map fun value =>
          .plain (.causeDiffers chunkId finding.cause.value (textOf render value))).toList

/-- A row of something that a finding must not have. -/
def forbiddenRow (findings : Dict String PropagationFinding) (key : String)
    (actual : PropagationFinding → String) (problem : String → String → Problem) (row : Value) :
    Except Value.Error (List DocumentProblem) := do
  let chunkId ← textAt render row "chunk_id"
  match findings.get? chunkId with
  | none => return []
  | some finding =>
      -- the value is subscripted behind `finding is not None`
      let forbidden ← row.subscript key
      if asStr forbidden = some (actual finding) then
        return [.plain (problem (actual finding) chunkId)]
      else return []

/-- A row of `forbidden_verdicts`. -/
def forbiddenVerdictRow (findings : Dict String PropagationFinding) (row : Value) :
    Except Value.Error (List DocumentProblem) :=
  forbiddenRow render findings "verdict" (fun finding => finding.verdict.value)
    .forbiddenVerdict row

/-- A row of `forbidden_causes`. -/
def forbiddenCauseRow (findings : Dict String PropagationFinding) (row : Value) :
    Except Value.Error (List DocumentProblem) :=
  forbiddenRow render findings "cause" (fun finding => finding.cause.value) .forbiddenCause row

/-- The chunks whose findings a document expects. -/
def expectedIdsAt (document : Mapping) : Except Value.Error (Finset String) := do
  let rows ← rowsAt document "expected_findings"
  let ids ← rows.mapM fun row => textAt render row "chunk_id"
  return ids.toFinset

/-- A count that the document states. -/
def countAt (field : String) (actual : Nat) (document : Mapping) (result : DocumentScore) :
    DocumentScore :=
  match document.get? (.str field) with
  | none => result
  | some expected =>
      result.check (if sameCount expected actual then [] else
        [.countDiffers field actual expected])

namespace Documents

/-- The first document. -/
def scorePropagation (report : VerificationReport) (findings : Dict String PropagationFinding)
    (document : Mapping) (result : DocumentScore) : Except Value.Error DocumentScore := do
  let rows ← rowsAt document "expected_findings"
  let result ← checkRows (findingRow render findings) rows result
  let expected ← expectedIdsAt render document
  let result := result.note ((unexpectedProblems findings expected).map .plain)
  let result := countAt "chunks_examined" report.chunksExamined document result
  let result := countAt "chunks_untraceable" report.chunksUntraceable document result
  let verdicts ← rowsAt document "forbidden_verdicts"
  let result ← checkRows (forbiddenVerdictRow render findings) verdicts result
  let causes ← rowsAt document "forbidden_causes"
  checkRows (forbiddenCauseRow render findings) causes result

end Documents

/-! ## Visibility -/

/-- One list of a row, compared only if the row has the label. -/
def listOf? (row : Value) (key : String × String) (probe : ProbeResult) (label : ListLabel) :
    Except Value.Error (Option DocumentProblem) :=
  -- the row is a mapping: its probe and its principal have been subscripted
  match row.stated? label.rowKey with
  | none => .ok none
  | some authored =>
      (differingList? authored (resultList probe label)).map
        (Option.map (.listDiffers key label (resultList probe label)))

/-- A row of `visibility`. -/
def visibilityRow (byKey : Dict (String × String) ProbeResult) (row : Value) :
    Except Value.Error (List DocumentProblem) := do
  let key ← keyAt render row
  match byKey.get? key with
  | none => return [.plain (.notProduced key)]
  | some probe =>
      let lists ← listLabels.mapM (listOf? row key probe)
      let outcome ← differing? row "outcome" probe.outcome.value
      return lists.reduceOption ++
        (outcome.map fun value =>
          .plain (.outcomeDiffers key probe.outcome.value (textOf render value))).toList

/-- The skipped probes, if the document states them. -/
def skippedAt (report : VerificationReport) (document : Mapping) (result : DocumentScore) :
    Except Value.Error DocumentScore :=
  match document.get? (.str "probes_skipped") with
  | none => .ok result
  | some expected => do
      let differing ← differingList? expected report.probesSkipped.toFinset
      return result.check
        (differing.map fun items => .skippedDiffers report.probesSkipped items).toList

namespace Documents

/-- The second document. -/
def scoreVisibility (report : VerificationReport) (document : Mapping) (result : DocumentScore) :
    Except Value.Error DocumentScore := do
  let byKey := resultsByKey report
  let rows ← rowsAt document "visibility"
  let result ← checkRows (visibilityRow render byKey) rows result
  let keys ← rows.mapM (keyAt render)
  let result := result.note ((byKey.keysExcept keys).map fun key => .plain (.notExpected key))
  skippedAt report document result

end Documents

/-! ## The negative set -/

/-- The key of a row that is expected to be defective. -/
def defectAt (row : Value) : Except Value.Error (Option (String × String)) := do
  let overRetrieved ← row.get "over_retrieved"
  let underRetrieved ← row.get "under_retrieved"
  if overRetrieved.truthy || underRetrieved.truthy then
    let key ← keyAt render row
    return some key
  else return none

/-- The rows that are expected to be defective. -/
def expectedDefectsAt (document : Mapping) : Except Value.Error (Finset (String × String)) := do
  let rows ← rowsAt document "visibility"
  let defects ← rows.mapM (defectAt render)
  return defects.reduceOption.toFinset

/-- A subject that an entry names, as a text. -/
def named? (value : Value) : Option String :=
  if value.isNull then none else some (textOf render value)

/-- An entry of `must_not_flag`. -/
def negativeRow (findings : Dict String PropagationFinding) (flaggedProbes : Finset String)
    (result : DocumentScore) (row : Value) : Except Value.Error DocumentScore := do
  let subject ← row.get "subject"
  if subject.isDict then
    let chunk ← subject.get "chunk"
    let probe ← subject.get "probe"
    return { result with
      checked := result.checked + 1
      falsePositives := result.falsePositives ++
        namedFalsePositives findings flaggedProbes
          { chunk := named? render chunk, probe := named? render probe } }
  else
    let coveredBy ← row.get "covered_by"
    if coveredBy.truthy then
      return { result with coveredElsewhere := result.coveredElsewhere + 1 }
    else
      return { result with uncheckedProse := result.uncheckedProse + 1 }

/-- A result whose row is not expected to be defective. -/
def probeRow (defects : Finset (String × String)) (result : DocumentScore) (probe : ProbeResult) :
    DocumentScore :=
  if keyOf probe ∈ defects then result
  else
    { result with
      negativeSubjects := result.negativeSubjects + 1
      falsePositives := result.falsePositives ++
        (if probe.overRetrieved ≠ ∅ ∨ probe.underRetrieved ≠ ∅ then
          [probe.probeId ++ "/" ++ probe.principalId] else []) }

/-- `len(document.get(key) or [])` -/
def proseAt (document : Mapping) (key : String) : Except Value.Error Nat :=
  ((valueAt document key).orElse (.list [])).len

namespace Documents

/-- The source's `_score_negative_set`: chunks, probe rows and named subjects. -/
def scoreNegativeSet (result : DocumentScore) (clean : Mapping)
    (findings : Dict String PropagationFinding) (report : VerificationReport)
    (expectedFindings : Finset String) (defects : Finset (String × String)) :
    Except Value.Error DocumentScore := do
  let silentChunks := report.chunksExamined - expectedFindings.card
  let result :=
    { result with
      negativeSubjects := result.negativeSubjects + silentChunks
      falsePositives := result.falsePositives ++
        findings.keys.filter fun chunkId => decide (chunkId ∉ expectedFindings) }
  let result := report.probes.foldl (probeRow defects) result
  let flaggedProbes :=
    ((report.probes.filter fun p => decide (p.verdict.value = "contradicted")).map
      ProbeResult.probeId).toFinset
  let rows ← rowsAt clean "must_not_flag"
  let result ← rows.foldlM (negativeRow render findings flaggedProbes) result
  let subjects := sortedSet result.falsePositives
  return { result.note (subjects.map fun subject => .plain (.falsePositive subject)) with
    falsePositives := subjects }

/-- The third document. -/
def scoreClean (report : VerificationReport) (findings : Dict String PropagationFinding)
    (propagation visibility clean : Mapping) (result : DocumentScore) :
    Except Value.Error DocumentScore := do
  -- the expected chunks were collected with the first document, so this cannot fail here
  let expected ← expectedIdsAt render propagation
  let conclude ← proseAt clean "must_not_conclude"
  let absent ← proseAt clean "properties_absent"
  let result := { result with uncheckedProse := result.uncheckedProse + conclude + absent }
  let defects ← expectedDefectsAt render visibility
  scoreNegativeSet render result clean findings report expected defects

end Documents

/-! ## What cannot be verified -/

/-- An entry of `expected_unverifiable`. -/
def unverifiableRow (report : VerificationReport) (findings : Dict String PropagationFinding)
    (row : Value) : Except Value.Error (List DocumentProblem) := do
  let subject ← row.getD "subject" (.str "")
  return (subjectProblems report findings (textOf render subject)).map .plain

namespace Documents

/-- The fourth document. -/
def scoreUnverifiable (report : VerificationReport) (findings : Dict String PropagationFinding)
    (document : Mapping) (result : DocumentScore) : Except Value.Error DocumentScore := do
  let rows ← rowsAt document "expected_unverifiable"
  checkRows (unverifiableRow render report findings) rows result

end Documents

/-! ## The whole score -/

/-- The four documents of a variant, each joined with those it inherits from. -/
structure Documents where
  propagation : Mapping := ∅
  visibility : Mapping := ∅
  clean : Mapping := ∅
  unverifiable : Mapping := ∅

/-- Score a report against a variant's documents. -/
def Documents.score (documents : Documents) (report : VerificationReport)
    (scenario variant : String) : Except Value.Error DocumentScore := do
  let findings := Dict.ofValues PropagationFinding.chunkId report.propagation
  let result : DocumentScore := { scenario := scenario, variant := variant }
  let result ← scorePropagation render report findings documents.propagation result
  let result ← scoreVisibility render report documents.visibility result
  let result ←
    scoreClean render report findings documents.propagation documents.visibility documents.clean
      result
  scoreUnverifiable render report findings documents.unverifiable result

end Scorer

/-! ## Loading the documents -/

section Loading

variable {Path : Type} (files : Files Path) (depth : ℕ) (expectedDir : String → Path)

/-- The source's `score`: each document is loaded from the directory when it is needed. -/
def Files.score (report : VerificationReport) (scenario variant : String) :
    Except LoadFailure DocumentScore := do
  let findings := Dict.ofValues PropagationFinding.chunkId report.propagation
  let result : DocumentScore := { scenario := scenario, variant := variant }
  let propagation ← files.load depth (expectedDir "expected-propagation.yaml")
  let result ← (Documents.scorePropagation files.render report findings propagation
    result).mapError .raised
  let visibility ← files.load depth (expectedDir "expected-visibility.yaml")
  let result ← (Documents.scoreVisibility files.render report visibility result).mapError .raised
  let clean ← files.load depth (expectedDir "expected-clean.yaml")
  let result ← (Documents.scoreClean files.render report findings propagation visibility clean
    result).mapError .raised
  let unverifiable ← files.load depth (expectedDir "expected-unverifiable.yaml")
  (Documents.scoreUnverifiable files.render report findings unverifiable result).mapError .raised

/-- The documents of a directory that load. -/
structure Files.Loads (documents : Documents) : Prop where
  propagation : files.load depth (expectedDir "expected-propagation.yaml") =
    .ok documents.propagation
  visibility : files.load depth (expectedDir "expected-visibility.yaml") =
    .ok documents.visibility
  clean : files.load depth (expectedDir "expected-clean.yaml") = .ok documents.clean
  unverifiable : files.load depth (expectedDir "expected-unverifiable.yaml") =
    .ok documents.unverifiable

variable {files depth expectedDir}

/-- The scorer completes exactly where the documents load and comparing with them completes. -/
theorem Files.score_eq_ok_iff {report : VerificationReport} {scenario variant : String}
    {result : DocumentScore} :
    files.score depth expectedDir report scenario variant = .ok result ↔
      ∃ documents, files.Loads depth expectedDir documents ∧
        documents.score files.render report scenario variant = .ok result := by
  simp only [Files.score, Documents.score, Loop.bind_eq_ok, Loop.mapError_eq_ok]
  constructor
  · intro hscore
    rcases hscore with ⟨propagation, hpropagation, first, hfirst, visibility, hvisibility,
      second, hsecond, clean, hclean, third, hthird, unverifiable, hunverifiable, hlast⟩
    exact ⟨⟨propagation, visibility, clean, unverifiable⟩,
      ⟨hpropagation, hvisibility, hclean, hunverifiable⟩,
      first, hfirst, second, hsecond, third, hthird, hlast⟩
  · intro hscore
    rcases hscore with ⟨documents, hloads, first, hfirst, second, hsecond, third, hthird, hlast⟩
    exact ⟨_, hloads.propagation, first, hfirst, _, hloads.visibility, second, hsecond, _,
      hloads.clean, third, hthird, _, hloads.unverifiable, hlast⟩

end Loading

end Evaluate

end Tearline
