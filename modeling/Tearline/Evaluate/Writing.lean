import Tearline.Evaluate.Reading

/-!
# Writing a truth set

A truth set is written as four documents with the keys that the scorer reads.  What is left out of
it is left out of them.

Main definitions:

- Definition {lit}`TruthSet.documents`: the documents.

Main results:

- Theorem {lit}`truth?_documents`: they state the truth set they were written from.
- Theorem {lit}`score_written`: so they are scored as it is.
-/

namespace Tearline

namespace Evaluate

/-! ## Writing the rows -/

/-- A list of texts. -/
def writeTexts (texts : List String) : Value :=
  .list (Value.strs texts)

/-- A row of `expected_findings`. -/
def writeFinding (row : FindingRow) : Value :=
  .dict (Value.entryOf "chunk_id" (some (.str row.chunkId)) ++
    Value.entryOf "verdict" (row.verdict.map Value.str) ++
    Value.entryOf "cause" (row.cause.map Value.str))

/-- A row of something that a finding must not have. -/
def writeForbidden (key : String) (row : ForbiddenRow) : Value :=
  .dict (Value.entryOf "chunk_id" (some (.str row.chunkId)) ++
    Value.entryOf key (some (.str row.value)))

/-- A row of `visibility`. -/
def writeVisibilityRow (row : VisibilityRow) : Value :=
  .dict (Value.entryOf "probe" (some (.str row.probe)) ++
    Value.entryOf "principal" (some (.str row.principal)) ++
    Value.entryOf "visible" (row.visible.map writeTexts) ++
    Value.entryOf "over_retrieved" (row.overRetrieved.map writeTexts) ++
    Value.entryOf "under_retrieved" (row.underRetrieved.map writeTexts) ++
    Value.entryOf "undetermined_returned" (row.undeterminedReturned.map writeTexts) ++
    Value.entryOf "absent_from_index" (row.absentFromIndex.map writeTexts) ++
    Value.entryOf "outcome" (row.outcome.map Value.str))

/-- The subject of an entry of `must_not_flag`. -/
def writeNegativeSubject (subject : NegativeSubject) : Value :=
  .dict (Value.entryOf "chunk" (subject.chunk.map Value.str) ++
    Value.entryOf "probe" (subject.probe.map Value.str))

/-- An entry of `must_not_flag`. -/
def writeNegative (row : NegativeRow) : Value :=
  .dict (Value.entryOf "subject" (row.subject.map writeNegativeSubject) ++
    Value.entryOf "covered_by" (some (.scalar (.bool row.coveredBy))))

/-- An entry of `expected_unverifiable`. -/
def writeSubject (subject : String) : Value :=
  .dict (Value.entryOf "subject" (some (.str subject)))

/-! ## Writing the documents -/

/-- `expected-propagation.yaml` -/
def writePropagation (expected : ExpectedPropagation) : Mapping :=
  mappingOf (Value.entryOf "expected_findings"
      (some (.list (expected.expectedFindings.map writeFinding))) ++
    Value.entryOf "chunks_examined" (expected.chunksExamined.map fun n => .scalar (.int n)) ++
    Value.entryOf "chunks_untraceable"
      (expected.chunksUntraceable.map fun n => .scalar (.int n)) ++
    Value.entryOf "forbidden_verdicts"
      (some (.list (expected.forbiddenVerdicts.map (writeForbidden "verdict")))) ++
    Value.entryOf "forbidden_causes"
      (some (.list (expected.forbiddenCauses.map (writeForbidden "cause")))))

/-- `expected-visibility.yaml` -/
def writeVisibility (expected : ExpectedVisibility) : Mapping :=
  mappingOf (Value.entryOf "visibility"
      (some (.list (expected.visibility.map writeVisibilityRow))) ++
    Value.entryOf "probes_skipped" (expected.probesSkipped.map writeTexts))

/-- `expected-clean.yaml` -/
def writeClean (expected : ExpectedClean) : Mapping :=
  mappingOf (Value.entryOf "must_not_conclude" (some (writeTexts expected.mustNotConclude)) ++
    Value.entryOf "properties_absent" (some (writeTexts expected.propertiesAbsent)) ++
    Value.entryOf "must_not_flag" (some (.list (expected.mustNotFlag.map writeNegative))))

end Evaluate

/-- The documents of a truth set. -/
def TruthSet.documents (truth : TruthSet) : Evaluate.Documents where
  propagation := Evaluate.writePropagation truth.propagation
  visibility := Evaluate.writeVisibility truth.visibility
  clean := Evaluate.writeClean truth.clean
  unverifiable := Evaluate.mappingOf (Value.entryOf "expected_unverifiable"
    (some (.list (truth.unverifiable.map Evaluate.writeSubject))))

namespace Evaluate

/-! ## Reading them back -/

section RoundTrip

variable {render : Value → String}

@[simp]
theorem textAt_dict (entries : List (Scalar × Value)) (key : String) :
    textAt render (.dict entries) key =
      match Value.lookup? entries key with
      | none => .error (.keyError key)
      | some value => .ok (textOf render value) := by
  rw [textAt, Value.subscript]
  cases Value.lookup? entries key <;> rfl

theorem asOptionalStr_written (text : Option String) :
    asOptionalStr ((text.map Value.str).getD .null) = some text := by
  cases text <;> rfl

theorem readTexts?_written (texts : List String) : readTexts? (writeTexts texts) = some texts := by
  rw [readTexts?, writeTexts, Value.elements_orElse_strs]
  exact asStrs_eq_some_iff.mpr rfl

theorem read_written_finding (row : FindingRow) :
    readFinding? render (writeFinding row) = some row := by
  simp [readFinding?, writeFinding, Value.entry, Value.field, Value.lookup?_append,
    Value.lookup?_entryOf, asOptionalStr_written, textOf, Except.toOption]

theorem read_written_forbidden {key : String} (hkey : "chunk_id" ≠ key) (row : ForbiddenRow) :
    readForbidden? render key (writeForbidden key row) = some row := by
  simp [readForbidden?, writeForbidden, Value.entry, Value.field, Value.lookup?_append,
    Value.lookup?_entryOf, hkey, asStr, textOf, Except.toOption]

/-- A list is read back from a row in which its label finds it. -/
theorem readList?_of_stated {row : Value} {label : ListLabel} {texts : Option (List String)}
    (hstated : row.stated? label.rowKey = texts.map writeTexts) :
    readList? row label = some texts := by
  rw [readList?, hstated]
  cases texts with
  | none => rfl
  | some texts => simp [readTexts?_written]

theorem stated?_written_row (row : VisibilityRow) (label : ListLabel) :
    (writeVisibilityRow row).stated? label.rowKey = (row.authored label).map writeTexts := by
  cases label <;>
    simp [writeVisibilityRow, Value.stated?, ListLabel.rowKey, VisibilityRow.authored,
      Value.lookup?_append, Value.lookup?_entryOf]

theorem read_written_row (row : VisibilityRow) :
    readVisibilityRow? render (writeVisibilityRow row) = some row := by
  have hkey : keyAt render (writeVisibilityRow row) = .ok row.key := by
    simp [keyAt, writeVisibilityRow, Value.lookup?_append, Value.lookup?_entryOf, textOf,
      VisibilityRow.key]
  have houtcome : (writeVisibilityRow row).entry "outcome" =
      (row.outcome.map Value.str).getD .null := by
    simp [writeVisibilityRow, Value.entry, Value.field, Value.lookup?_append,
      Value.lookup?_entryOf]
  have hlists : ∀ label, readList? (writeVisibilityRow row) label = some (row.authored label) :=
    fun label => readList?_of_stated (stated?_written_row row label)
  simp [readVisibilityRow?, hkey, hlists, houtcome, asOptionalStr_written, VisibilityRow.key,
    VisibilityRow.authored, Except.toOption]

theorem named?_written (text : Option String) :
    named? render ((text.map Value.str).getD .null) = text := by
  cases text <;> rfl

theorem subjectOf_written (subject : Option NegativeSubject) :
    subjectOf render ((subject.map writeNegativeSubject).getD .null) = subject := by
  cases subject with
  | none => rfl
  | some subject =>
      simp [subjectOf, writeNegativeSubject, Value.isDict, Value.entry, Value.field,
        Value.lookup?_append, Value.lookup?_entryOf, named?_written]

theorem read_written_negative (row : NegativeRow) :
    readNegative? render (writeNegative row) = some row := by
  have hsubject : (writeNegative row).entry "subject" =
      (row.subject.map writeNegativeSubject).getD .null := by
    simp [writeNegative, Value.entry, Value.field, Value.lookup?_append, Value.lookup?_entryOf]
  have hcovered : (writeNegative row).entry "covered_by" = .scalar (.bool row.coveredBy) := by
    simp [writeNegative, Value.entry, Value.field, Value.lookup?_append, Value.lookup?_entryOf]
  rw [readNegative?, hsubject, hcovered, subjectOf_written]
  rfl

theorem read_written_subject (subject : String) :
    readSubject? render (writeSubject subject) = some subject :=
  rfl

/-- Rows are read back from a document in which their key finds them. -/
theorem readRows?_of_written {α : Type} {document : Mapping} {key : String}
    {read? : Value → Option α} (write : α → Value) {rows : List α}
    (hfound : document.get? (.str key) = some (.list (rows.map write)))
    (hread : ∀ a, read? (write a) = some a) : readRows? document key read? = some rows := by
  have hrows : rowsAt document key = .ok (rows.map write) := by
    rw [rowsAt, valueAt, hfound, Option.getD_some, Value.iterate_orElse_list]
  rw [readRows?, hrows]
  refine Loop.mapM_eq_some_iff.mpr ?_
  rw [List.forall₂_map_left_iff]
  exact List.forall₂_same.mpr fun a _ => hread a

theorem readCount?_of_written {document : Mapping} {field : String} {count : Option Int}
    (hfound : document.get? (.str field) = count.map fun n => .scalar (.int n)) :
    readCount? document field = some count := by
  rw [readCount?, hfound]
  cases count <;> rfl

theorem read_written_propagation (expected : ExpectedPropagation) :
    readPropagation? render (writePropagation expected) = some expected := by
  have hfindings : readRows? (writePropagation expected) "expected_findings"
      (readFinding? render) = some expected.expectedFindings :=
    readRows?_of_written _
      (by simp [writePropagation, get?_mappingOf, Value.lookup?_append, Value.lookup?_entryOf])
      read_written_finding
  have hexamined : readCount? (writePropagation expected) "chunks_examined" =
      some expected.chunksExamined :=
    readCount?_of_written
      (by simp [writePropagation, get?_mappingOf, Value.lookup?_append, Value.lookup?_entryOf])
  have huntraceable : readCount? (writePropagation expected) "chunks_untraceable" =
      some expected.chunksUntraceable :=
    readCount?_of_written
      (by simp [writePropagation, get?_mappingOf, Value.lookup?_append, Value.lookup?_entryOf])
  have hverdicts : readRows? (writePropagation expected) "forbidden_verdicts"
      (readForbidden? render "verdict") = some expected.forbiddenVerdicts :=
    readRows?_of_written _
      (by simp [writePropagation, get?_mappingOf, Value.lookup?_append, Value.lookup?_entryOf])
      (read_written_forbidden (by decide))
  have hcauses : readRows? (writePropagation expected) "forbidden_causes"
      (readForbidden? render "cause") = some expected.forbiddenCauses :=
    readRows?_of_written _
      (by simp [writePropagation, get?_mappingOf, Value.lookup?_append, Value.lookup?_entryOf])
      (read_written_forbidden (by decide))
  simp [readPropagation?, hfindings, hexamined, huntraceable, hverdicts, hcauses]

theorem read_written_visibility (expected : ExpectedVisibility) :
    readVisibility? render (writeVisibility expected) = some expected := by
  have hrows : readRows? (writeVisibility expected) "visibility" (readVisibilityRow? render) =
      some expected.visibility :=
    readRows?_of_written _
      (by simp [writeVisibility, get?_mappingOf, Value.lookup?_append, Value.lookup?_entryOf])
      read_written_row
  have hfound : (writeVisibility expected).get? (.str "probes_skipped") =
      expected.probesSkipped.map writeTexts := by
    simp [writeVisibility, get?_mappingOf, Value.lookup?_append, Value.lookup?_entryOf]
  have hskipped : readSkipped? (writeVisibility expected) = some expected.probesSkipped := by
    rw [readSkipped?, hfound]
    cases expected.probesSkipped with
    | none => rfl
    | some texts => simp [readTexts?_written]
  simp [readVisibility?, hrows, hskipped]

theorem read_written_clean (expected : ExpectedClean) :
    readClean? render (writeClean expected) = some expected := by
  have hconclude : readRows? (writeClean expected) "must_not_conclude"
      (fun entry => some (textOf render entry)) = some expected.mustNotConclude :=
    readRows?_of_written Value.str
      (by simp [writeClean, writeTexts, Value.strs, get?_mappingOf, Value.lookup?_append,
        Value.lookup?_entryOf])
      fun _ => rfl
  have habsent : readRows? (writeClean expected) "properties_absent"
      (fun entry => some (textOf render entry)) = some expected.propertiesAbsent :=
    readRows?_of_written Value.str
      (by simp [writeClean, writeTexts, Value.strs, get?_mappingOf, Value.lookup?_append,
        Value.lookup?_entryOf])
      fun _ => rfl
  have hrows : readRows? (writeClean expected) "must_not_flag" (readNegative? render) =
      some expected.mustNotFlag :=
    readRows?_of_written _
      (by simp [writeClean, get?_mappingOf, Value.lookup?_append, Value.lookup?_entryOf])
      read_written_negative
  simp [readClean?, hconclude, habsent, hrows]

/-- The documents written from a truth set state it. -/
theorem truth?_documents (truth : TruthSet) : truth.documents.truth? render = some truth := by
  have hsubjects : readRows? truth.documents.unverifiable "expected_unverifiable"
      (readSubject? render) = some truth.unverifiable :=
    readRows?_of_written _
      (by simp [TruthSet.documents, get?_mappingOf, Value.lookup?_entryOf])
      read_written_subject
  simp only [Documents.truth?, hsubjects]
  simp [TruthSet.documents, read_written_propagation, read_written_visibility,
    read_written_clean]

/-- Every truth set is what some documents state, and these are scored as it is. -/
theorem score_written (render : Value → String) (truth : TruthSet) :
    truth.documents.truth? render = some truth ∧
      ∀ report scenario variant,
        ∃ found, truth.documents.score render report scenario variant = .ok found ∧
          found.Tells (score report truth scenario variant) :=
  ⟨truth?_documents truth, Documents.score_of_truth? (truth?_documents truth)⟩

end RoundTrip

end Evaluate

end Tearline
