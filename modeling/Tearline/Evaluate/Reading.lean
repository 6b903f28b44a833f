import Tearline.Evaluate.Documents

/-!
# Reading a truth set

The documents of a variant state a truth set when every entry has the keys that are read of it and
what is compared with a text, a count or a list of texts is one.  Such documents are scored as the
truth set is.

Main definitions:

- Definition {lit}`Documents.truth?`: the truth set that documents state.

Main results:

- Theorem {lit}`score_of_read`: files whose documents state a truth set are scored as it is.
-/

namespace Tearline

namespace Evaluate

/-! ## Reading the rows -/

section Readers

variable (render : Value → String)

/-- A row of `expected_findings`. -/
def readFinding? (row : Value) : Option FindingRow := do
  let chunkId ← (textAt render row "chunk_id").toOption
  let verdict ← asOptionalStr (row.entry "verdict")
  let cause ← asOptionalStr (row.entry "cause")
  return { chunkId := chunkId, verdict := verdict, cause := cause }

/-- A row of something that a finding must not have. -/
def readForbidden? (key : String) (row : Value) : Option ForbiddenRow := do
  let chunkId ← (textAt render row "chunk_id").toOption
  let value ← asStr (row.entry key)
  return { chunkId := chunkId, value := value }

/-- A count, if the document states one. -/
def readCount? (document : Mapping) (field : String) : Option (Option Int) :=
  match document.get? (.str field) with
  | none => some none
  | some (.scalar (.int n)) => some (some n)
  | some _ => none

/-- A list of texts, which may be left empty. -/
def readTexts? (value : Value) : Option (List String) := do
  let items ← (value.orElse (.list [])).elements.toOption
  asStrs items

/-- The list of a row under a label, if it has one. -/
def readList? (row : Value) (label : ListLabel) : Option (Option (List String)) :=
  match row.stated? label.rowKey with
  | none => some none
  | some authored => (readTexts? authored).map some

/-- A row of `visibility`. -/
def readVisibilityRow? (row : Value) : Option VisibilityRow := do
  let key ← (keyAt render row).toOption
  let visible ← readList? row .visible
  let overRetrieved ← readList? row .overRetrieved
  let underRetrieved ← readList? row .underRetrieved
  let undeterminedReturned ← readList? row .undeterminedReturned
  let absentFromIndex ← readList? row .absentFromIndex
  let outcome ← asOptionalStr (row.entry "outcome")
  return {
    probe := key.1
    principal := key.2
    visible := visible
    overRetrieved := overRetrieved
    underRetrieved := underRetrieved
    undeterminedReturned := undeterminedReturned
    absentFromIndex := absentFromIndex
    outcome := outcome }

/-- The skipped probes, if the document states them. -/
def readSkipped? (document : Mapping) : Option (Option (List String)) :=
  match document.get? (.str "probes_skipped") with
  | none => some none
  | some expected => (readTexts? expected).map some

/-- The subject of an entry of `must_not_flag`, if it is structured. -/
def subjectOf (subject : Value) : Option NegativeSubject :=
  if subject.isDict then
    some {
      chunk := named? render (subject.entry "chunk")
      probe := named? render (subject.entry "probe") }
  else none

/-- An entry of `must_not_flag`. -/
def readNegative? (row : Value) : Option NegativeRow :=
  if row.isDict then
    some {
      subject := subjectOf render (row.entry "subject")
      coveredBy := (row.entry "covered_by").truthy }
  else none

/-- An entry of `expected_unverifiable`. -/
def readSubject? (row : Value) : Option String :=
  (row.getD "subject" (.str "")).toOption.map (textOf render)

/-! ## Reading the documents -/

/-- The rows under a key, each of them read. -/
def readRows? {α : Type} (document : Mapping) (key : String) (read? : Value → Option α) :
    Option (List α) := do
  let rows ← (rowsAt document key).toOption
  rows.mapM read?

/-- `expected-propagation.yaml` -/
def readPropagation? (document : Mapping) : Option ExpectedPropagation := do
  let expectedFindings ← readRows? document "expected_findings" (readFinding? render)
  let chunksExamined ← readCount? document "chunks_examined"
  let chunksUntraceable ← readCount? document "chunks_untraceable"
  let forbiddenVerdicts ←
    readRows? document "forbidden_verdicts" (readForbidden? render "verdict")
  let forbiddenCauses ← readRows? document "forbidden_causes" (readForbidden? render "cause")
  return {
    expectedFindings := expectedFindings
    chunksExamined := chunksExamined
    chunksUntraceable := chunksUntraceable
    forbiddenVerdicts := forbiddenVerdicts
    forbiddenCauses := forbiddenCauses }

/-- `expected-visibility.yaml` -/
def readVisibility? (document : Mapping) : Option ExpectedVisibility := do
  let visibility ← readRows? document "visibility" (readVisibilityRow? render)
  let probesSkipped ← readSkipped? document
  return { visibility := visibility, probesSkipped := probesSkipped }

/-- `expected-clean.yaml`; of the prose no more than its length matters. -/
def readClean? (document : Mapping) : Option ExpectedClean := do
  let mustNotConclude ← readRows? document "must_not_conclude" fun entry =>
    some (textOf render entry)
  let propertiesAbsent ← readRows? document "properties_absent" fun entry =>
    some (textOf render entry)
  let mustNotFlag ← readRows? document "must_not_flag" (readNegative? render)
  return {
    mustNotConclude := mustNotConclude
    propertiesAbsent := propertiesAbsent
    mustNotFlag := mustNotFlag }

/-- The truth set that documents state. -/
def Documents.truth? (documents : Documents) : Option TruthSet := do
  let propagation ← readPropagation? render documents.propagation
  let visibility ← readVisibility? render documents.visibility
  let clean ← readClean? render documents.clean
  let unverifiable ←
    readRows? documents.unverifiable "expected_unverifiable" (readSubject? render)
  return {
    propagation := propagation
    visibility := visibility
    clean := clean
    unverifiable := unverifiable }

end Readers

/-! ## What a problem of the documents tells -/

/-- A problem found by the documents and the same problem found by the truth set they state. -/
inductive DocumentProblem.Tells : DocumentProblem → Problem → Prop
  | plain (problem : Problem) : Tells (.plain problem) problem
  | count (field : String) (actual : Nat) (expected : Int) :
      Tells (.countDiffers field actual (.scalar (.int expected)))
        (.countDiffers field actual expected)
  | list (key : String × String) (label : ListLabel) (actual : Finset String)
      (expected : List String) :
      Tells (.listDiffers key label actual (Value.strs expected))
        (.listDiffers key label actual expected.toFinset)
  | skipped (actual expected : List String) :
      Tells (.skippedDiffers actual (Value.strs expected)) (.skippedDiffers actual expected)

/-- Problems that tell the same one by one. -/
abbrev Telling (found : List DocumentProblem) (problems : List Problem) : Prop :=
  List.Forall₂ DocumentProblem.Tells found problems

/-- The same score, but for what the texts of the problems interpolate. -/
structure DocumentScore.Tells (found : DocumentScore) (result : Score) : Prop where
  scenario : found.scenario = result.scenario
  variant : found.variant = result.variant
  problems : Telling found.problems result.problems
  checked : found.checked = result.checked
  uncheckedProse : found.uncheckedProse = result.uncheckedProse
  negativeSubjects : found.negativeSubjects = result.negativeSubjects
  falsePositives : found.falsePositives = result.falsePositives
  coveredElsewhere : found.coveredElsewhere = result.coveredElsewhere

theorem telling_plain (problems : List Problem) : Telling (problems.map .plain) problems := by
  induction problems with
  | nil => exact List.Forall₂.nil
  | cons problem problems ih => exact List.Forall₂.cons (.plain problem) ih

theorem DocumentScore.Tells.passed_eq {found : DocumentScore} {result : Score}
    (h : found.Tells result) : found.passed = result.passed := by
  have hlength := h.problems.length_eq
  rw [DocumentScore.passed, Score.passed, Bool.eq_iff_iff, List.isEmpty_iff_length_eq_zero,
    List.isEmpty_iff_length_eq_zero, hlength]

theorem DocumentScore.Tells.note {found : DocumentScore} {result : Score}
    {more : List DocumentProblem} {problems : List Problem} (h : found.Tells result)
    (hmore : Telling more problems) : (found.note more).Tells (result.note problems) :=
  { h with problems := List.rel_append h.problems hmore }

theorem DocumentScore.Tells.check {found : DocumentScore} {result : Score}
    {more : List DocumentProblem} {problems : List Problem} (h : found.Tells result)
    (hmore : Telling more problems) : (found.check more).Tells (result.check problems) :=
  { h with
    problems := List.rel_append h.problems hmore
    checked := congrArg (· + 1) h.checked }

/-! ## Row by row -/

section Rows

variable {render : Value → String}

theorem dict_of_textAt {row : Value} {key text : String} (h : textAt render row key = .ok text) :
    ∃ entries, row = .dict entries := by
  rw [textAt, Loop.map_eq_ok] at h
  rcases h with ⟨value, hvalue, -⟩
  exact Value.dict_of_subscript hvalue

/-- What differs of a value that may be left out is what is stated and is another text. -/
theorem differing?_of_read {row : Value} {key : String} {expected : Option String}
    (hdict : ∃ entries, row = .dict entries)
    (hread : asOptionalStr (row.entry key) = some expected) (actual : String) :
    differing? row key actual = .ok (((stated expected).filter fun text =>
      decide (actual ≠ text)).map Value.str) := by
  rcases hdict with ⟨entries, rfl⟩
  rw [differing?, Value.get_dict]
  rw [Value.entry] at hread
  unfold asOptionalStr at hread
  split at hread
  · rename_i hnull
    rw [← Option.some.inj hread, hnull]
    rfl
  · rename_i text htext
    rw [← Option.some.inj hread, htext]
    by_cases hempty : text = ""
    · subst hempty
      rfl
    · by_cases hsame : actual = text
      · subst hsame
        simp [stated, Value.truthy, Scalar.truthy, asStr, bind, Except.bind, pure, Except.pure]
      · simp [stated, Value.truthy, Scalar.truthy, asStr, hempty, hsame, Ne.symm hsame, bind,
          Except.bind, pure, Except.pure]
  · cases hread

/-- Its problem is the one the truth set has of it. -/
theorem telling_differing (expected : Option String) (actual : String)
    (problem : String → Problem) :
    Telling
      ((((stated expected).filter fun text => decide (actual ≠ text)).map Value.str).map
        fun value => DocumentProblem.plain (problem (textOf render value))).toList
      (match stated expected with
        | none => []
        | some text => if actual ≠ text then [problem text] else []) := by
  cases stated expected with
  | none => exact List.Forall₂.nil
  | some text =>
      by_cases hsame : actual = text
      · simp [hsame, Option.filter]
      · simpa [hsame, Option.filter, textOf] using telling_plain [problem text]

theorem findingRow_of_read {findings : Dict String PropagationFinding} {row : Value}
    {expected : FindingRow} (hread : readFinding? render row = some expected) :
    ∃ found, findingRow render findings row = .ok found ∧
      Telling found (findingProblems findings expected) := by
  simp only [readFinding?, Option.bind_eq_bind, Option.bind_eq_some_iff, Option.pure_def,
    Option.some.injEq, Loop.toOption_eq_some_iff] at hread
  rcases hread with ⟨chunkId, hid, verdict, hverdict, cause, hcause, rfl⟩
  have hdict := dict_of_textAt hid
  unfold findingProblems
  simp only [findingRow, hid, bind, Except.bind]
  cases findings.get? chunkId with
  | none => exact ⟨_, rfl, telling_plain [.missedFinding chunkId]⟩
  | some finding =>
      simp only [differing?_of_read hdict hverdict, differing?_of_read hdict hcause]
      exact ⟨_, rfl, List.rel_append (telling_differing _ _ _) (telling_differing _ _ _)⟩

/-- A row of something that a finding must not have has the problem of the same row of the truth
set. -/
theorem forbiddenRow_of_read {findings : Dict String PropagationFinding} {key : String}
    {actual : PropagationFinding → String} {problem : String → String → Problem} {row : Value}
    {expected : ForbiddenRow} (hread : readForbidden? render key row = some expected) :
    ∃ found, forbiddenRow render findings key actual problem row = .ok found ∧
      Telling found (match findings.get? expected.chunkId with
        | none => []
        | some finding =>
            if actual finding = expected.value then [problem expected.value expected.chunkId]
            else []) := by
  simp only [readForbidden?, Option.bind_eq_bind, Option.bind_eq_some_iff, Option.pure_def,
    Option.some.injEq, Loop.toOption_eq_some_iff, asStr_eq_some_iff] at hread
  rcases hread with ⟨chunkId, hid, value, hvalue, rfl⟩
  simp only [forbiddenRow, hid, Value.subscript_of_entry hvalue, asStr, bind, Except.bind]
  cases findings.get? chunkId with
  | none => exact ⟨[], rfl, List.Forall₂.nil⟩
  | some finding =>
      by_cases hsame : value = actual finding
      · subst hsame
        simp only [if_pos]
        exact ⟨_, rfl, telling_plain [problem (actual finding) chunkId]⟩
      · simp only [Option.some.injEq, hsame, Ne.symm hsame, if_false]
        exact ⟨[], rfl, List.Forall₂.nil⟩

/-- A list that is read differs where its texts are others. -/
theorem differingList?_of_read {authored : Value} {expected : List String}
    (hread : readTexts? authored = some expected) (actual : Finset String) :
    differingList? authored actual =
      .ok (if expected.toFinset ≠ actual then some (Value.strs expected) else none) := by
  simp only [readTexts?, Option.bind_eq_bind, Option.bind_eq_some_iff, Loop.toOption_eq_some_iff,
    asStrs_eq_some_iff] at hread
  rcases hread with ⟨items, hitems, rfl⟩
  have hsorts : Value.sortable (Value.strs expected) = true := by
    rw [Value.sortable, decide_eq_true_iff, Value.strs, List.pairwise_map]
    exact List.pairwise_of_forall fun _ _ => rfl
  have hsame : sameTexts (Value.strs expected) actual = decide (expected.toFinset = actual) := by
    rw [sameTexts, asStrs_eq_some_iff.mpr rfl, Option.map_some]
    simp
  simp only [differingList?, hitems, hsame, hsorts, bind, Except.bind]
  by_cases heq : expected.toFinset = actual <;> simp [heq]

/-- A list of texts counts as true where it has one. -/
theorem truthy_of_readTexts {value : Value} {texts : List String}
    (hread : readTexts? value = some texts) : value.truthy = true ↔ texts ≠ [] := by
  simp only [readTexts?, Option.bind_eq_bind, Option.bind_eq_some_iff, Loop.toOption_eq_some_iff,
    asStrs_eq_some_iff] at hread
  rcases hread with ⟨items, hitems, rfl⟩
  have hiterate := Value.iterate_of_elements hitems
  by_cases htrue : value.truthy = true
  · refine iff_of_true htrue ?_
    rw [Value.orElse, if_pos htrue] at hiterate
    rintro rfl
    exact Value.iterate_ne_nil htrue hiterate
  · refine iff_of_false htrue ?_
    rw [Value.orElse, if_neg htrue] at hiterate
    cases texts with
    | nil => exact fun h => h rfl
    | cons text texts => cases hiterate

theorem readVisibilityRow?_eq_some {row : Value} {expected : VisibilityRow}
    (hread : readVisibilityRow? render row = some expected) :
    keyAt render row = .ok expected.key ∧
      (∀ label, readList? row label = some (expected.authored label)) ∧
        asOptionalStr (row.entry "outcome") = some expected.outcome := by
  simp only [readVisibilityRow?, Option.bind_eq_bind, Option.bind_eq_some_iff, Option.pure_def,
    Option.some.injEq, Loop.toOption_eq_some_iff] at hread
  rcases hread with ⟨key, hkey, visible, hvisible, overRetrieved, hover, underRetrieved, hunder,
    undetermined, hundetermined, absent, habsent, outcome, houtcome, rfl⟩
  refine ⟨hkey, ?_, houtcome⟩
  intro label
  cases label with
  | visible => exact hvisible
  | overRetrieved => exact hover
  | underRetrieved => exact hunder
  | undeterminedReturned => exact hundetermined
  | absentFromIndex => exact habsent

theorem dict_of_keyAt {row : Value} {key : String × String} (h : keyAt render row = .ok key) :
    ∃ entries, row = .dict entries := by
  rw [keyAt, Loop.bind_eq_ok] at h
  rcases h with ⟨probe, hprobe, -⟩
  exact dict_of_textAt hprobe

/-- A list of a row has the problem of the same list of the truth set. -/
theorem listOf?_of_read {row : Value} {expected : VisibilityRow} {label : ListLabel}
    (hread : readList? row label = some (expected.authored label)) (probe : ProbeResult) :
    ∃ found, listOf? row expected.key probe label = .ok found ∧
      Option.Rel DocumentProblem.Tells found (listProblem expected probe label) := by
  unfold readList? at hread
  unfold listOf? listProblem
  cases hstated : row.stated? label.rowKey with
  | none =>
      rw [hstated] at hread
      rw [← Option.some.inj hread]
      exact ⟨none, rfl, Option.Rel.none⟩
  | some authored =>
      rw [hstated] at hread
      rcases Option.map_eq_some_iff.mp hread with ⟨texts, htexts, hauthored⟩
      simp only [← hauthored, differingList?_of_read htexts]
      refine ⟨_, rfl, ?_⟩
      by_cases hsame : texts.toFinset = resultList probe label
      · simp [hsame]
      · simpa [hsame] using Option.Rel.some (DocumentProblem.Tells.list _ _ _ texts)

/-- The problems of the lists, label by label. -/
theorem mapM_listOf?_of_read {row : Value} {expected : VisibilityRow}
    (hread : ∀ label, readList? row label = some (expected.authored label))
    (probe : ProbeResult) (labels : List ListLabel) :
    ∃ found, labels.mapM (listOf? row expected.key probe) = .ok found ∧
      Telling found.reduceOption (labels.filterMap (listProblem expected probe)) := by
  induction labels with
  | nil => exact ⟨[], rfl, List.Forall₂.nil⟩
  | cons label labels ih =>
      rcases listOf?_of_read (hread label) probe with ⟨first, hfirst, hrel⟩
      rcases ih with ⟨rest, hrest, htelling⟩
      refine ⟨first :: rest, by simp [List.mapM_cons, hfirst, hrest], ?_⟩
      cases hproblem : listProblem expected probe label with
      | none =>
          rw [hproblem] at hrel
          cases hrel
          simpa [hproblem] using htelling
      | some problem =>
          rw [hproblem] at hrel
          cases hrel with
          | some htells => simpa [hproblem] using List.Forall₂.cons htells htelling

theorem visibilityRow_of_read {byKey : Dict (String × String) ProbeResult} {row : Value}
    {expected : VisibilityRow} (hread : readVisibilityRow? render row = some expected) :
    ∃ found, visibilityRow render byKey row = .ok found ∧
      Telling found (rowProblems byKey expected) := by
  rcases readVisibilityRow?_eq_some hread with ⟨hkey, hlists, houtcome⟩
  unfold rowProblems
  simp only [visibilityRow, hkey, bind, Except.bind]
  cases byKey.get? expected.key with
  | none => exact ⟨_, rfl, telling_plain [.notProduced expected.key]⟩
  | some probe =>
      rcases mapM_listOf?_of_read hlists probe listLabels with ⟨found, hfound, htelling⟩
      simp only [hfound, differing?_of_read (dict_of_keyAt hkey) houtcome]
      exact ⟨_, rfl, List.rel_append htelling (telling_differing _ _ _)⟩

/-- A list that is left out counts as false, and one that is stated if it has an item. -/
theorem truthy_entry_of_read {row : Value} {label : ListLabel}
    {expected : Option (List String)} (hread : readList? row label = some expected) :
    (row.entry label.rowKey).truthy = true ↔ expected.getD [] ≠ [] := by
  unfold readList? at hread
  cases row with
  | dict entries =>
      rw [Value.entry, Value.field]
      rw [Value.stated?] at hread
      cases hstated : Value.lookup? entries label.rowKey with
      | none =>
          rw [hstated] at hread
          rw [← Option.some.inj hread]
          exact iff_of_false (by simp [Value.truthy, Scalar.truthy]) (fun h => h rfl)
      | some authored =>
          rw [hstated] at hread
          rcases Option.map_eq_some_iff.mp hread with ⟨texts, htexts, rfl⟩
          exact truthy_of_readTexts htexts
  | scalar s =>
      rw [← Option.some.inj hread]
      exact iff_of_false (by simp [Value.entry, Value.truthy, Scalar.truthy]) (fun h => h rfl)
  | list items =>
      rw [← Option.some.inj hread]
      exact iff_of_false (by simp [Value.entry, Value.truthy, Scalar.truthy]) (fun h => h rfl)

/-- A row is expected to be defective where the row of the truth set is. -/
theorem defectAt_of_read {row : Value} {expected : VisibilityRow}
    (hread : readVisibilityRow? render row = some expected) :
    defectAt render row = .ok (if expected.overRetrieved.getD [] ≠ [] ∨
      expected.underRetrieved.getD [] ≠ [] then some expected.key else none) := by
  rcases readVisibilityRow?_eq_some hread with ⟨hkey, hlists, -⟩
  have hover := truthy_entry_of_read (hlists .overRetrieved)
  have hunder := truthy_entry_of_read (hlists .underRetrieved)
  rcases dict_of_keyAt hkey with ⟨entries, rfl⟩
  simp only [ListLabel.rowKey, Value.entry, VisibilityRow.authored] at hover hunder
  simp only [defectAt, Value.get_dict, hkey, bind, Except.bind, Bool.or_eq_true, hover, hunder]
  split <;> rfl

theorem negativeRow_of_read {findings : Dict String PropagationFinding}
    {flaggedProbes : Finset String} {row : Value} {expected : NegativeRow}
    (hread : readNegative? render row = some expected) {found : DocumentScore} {result : Score}
    (htells : found.Tells result) :
    ∃ found', negativeRow render findings flaggedProbes found row = .ok found' ∧
      found'.Tells (scoreNegativeRow findings flaggedProbes result expected) := by
  cases row with
  | scalar s => cases hread
  | list items => cases hread
  | dict entries =>
      rw [← Option.some.inj hread]
      simp only [negativeRow, Value.get_dict, Value.entry, bind, Except.bind, scoreNegativeRow]
      cases hsubject : Value.field entries "subject" with
      | dict inner =>
          exact ⟨_, rfl, { htells with
            checked := congrArg (· + 1) htells.checked
            falsePositives := by rw [htells.falsePositives]; rfl }⟩
      | _ =>
          by_cases hcovered : (Value.field entries "covered_by").truthy = true
          · simp only [Value.isDict, subjectOf, hcovered, Bool.false_eq_true, if_false, if_true]
            exact ⟨_, rfl, { htells with
              coveredElsewhere := congrArg (· + 1) htells.coveredElsewhere }⟩
          · simp only [Value.isDict, subjectOf, hcovered, Bool.false_eq_true, if_false]
            exact ⟨_, rfl, { htells with
              uncheckedProse := congrArg (· + 1) htells.uncheckedProse }⟩

theorem unverifiableRow_of_read {report : VerificationReport}
    {findings : Dict String PropagationFinding} {row : Value} {subject : String}
    (hread : readSubject? render row = some subject) :
    ∃ found, unverifiableRow render report findings row = .ok found ∧
      Telling found (subjectProblems report findings subject) := by
  rcases Option.map_eq_some_iff.mp hread with ⟨value, hvalue, rfl⟩
  rw [Loop.toOption_eq_some_iff] at hvalue
  simp only [unverifiableRow, hvalue, bind, Except.bind]
  exact ⟨_, rfl, telling_plain _⟩

end Rows

/-! ## Document by document -/

section ByDocument

variable {render : Value → String} {report : VerificationReport}
  {findings : Dict String PropagationFinding} {found : DocumentScore} {result : Score}

theorem rowsAt_of_read {α : Type} {document : Mapping} {key : String}
    {read? : Value → Option α} {expected : List α}
    (hread : readRows? document key read? = some expected) :
    ∃ rows, rowsAt document key = .ok rows ∧
      List.Forall₂ (fun row a => read? row = some a) rows expected := by
  simp only [readRows?, Option.bind_eq_bind, Option.bind_eq_some_iff, Loop.toOption_eq_some_iff,
    Loop.mapM_eq_some_iff] at hread
  exact hread

/-- What is computed from each row of a document that is read. -/
theorem mapM_of_read {α β : Type} {read? : Value → Option α} {rows : List Value}
    {expected : List α} (hread : List.Forall₂ (fun row a => read? row = some a) rows expected)
    {f : Value → Except Value.Error β} {g : α → β}
    (hf : ∀ row a, read? row = some a → f row = .ok (g a)) :
    rows.mapM f = .ok (expected.map g) := by
  rw [Loop.mapM_eq_ok_iff, List.forall₂_map_right_iff]
  exact hread.imp hf

/-- A loop over rows finds what the loop over the rows of the truth set does. -/
theorem checkRows_of_read {α : Type} {read? : Value → Option α} {rows : List Value}
    {expected : List α} (hread : List.Forall₂ (fun row a => read? row = some a) rows expected)
    {f : Value → Except Value.Error (List DocumentProblem)} {problems : α → List Problem}
    (hf : ∀ row a, read? row = some a → ∃ more, f row = .ok more ∧ Telling more (problems a))
    (htells : found.Tells result) :
    ∃ found', checkRows f rows found = .ok found' ∧
      found'.Tells (expected.foldl (fun result a => result.check (problems a)) result) := by
  refine Loop.foldlM_follows hread ?_ htells
  intro row a found result hrow htells
  rcases hf row a hrow with ⟨more, hmore, htelling⟩
  exact ⟨found.check more, by rw [hmore]; rfl, htells.check htelling⟩

theorem readPropagation?_eq_some {document : Mapping} {expected : ExpectedPropagation}
    (hread : readPropagation? render document = some expected) :
    readRows? document "expected_findings" (readFinding? render) =
        some expected.expectedFindings ∧
      readCount? document "chunks_examined" = some expected.chunksExamined ∧
      readCount? document "chunks_untraceable" = some expected.chunksUntraceable ∧
      readRows? document "forbidden_verdicts" (readForbidden? render "verdict") =
        some expected.forbiddenVerdicts ∧
      readRows? document "forbidden_causes" (readForbidden? render "cause") =
        some expected.forbiddenCauses := by
  simp only [readPropagation?, Option.bind_eq_bind, Option.bind_eq_some_iff, Option.pure_def,
    Option.some.injEq] at hread
  rcases hread with ⟨rows, hrows, examined, hexamined, untraceable, huntraceable, verdicts,
    hverdicts, causes, hcauses, rfl⟩
  exact ⟨hrows, hexamined, huntraceable, hverdicts, hcauses⟩

theorem expectedIdsAt_of_read {document : Mapping} {expected : ExpectedPropagation}
    (hread : readPropagation? render document = some expected) :
    expectedIdsAt render document = .ok (expectedIds expected) := by
  rcases rowsAt_of_read (readPropagation?_eq_some hread).1 with ⟨rows, hrows, hall⟩
  have hids : rows.mapM (fun row => textAt render row "chunk_id") =
      .ok (expected.expectedFindings.map FindingRow.chunkId) := by
    refine mapM_of_read hall ?_
    intro row a hrow
    simp only [readFinding?, Option.bind_eq_bind, Option.bind_eq_some_iff, Option.pure_def,
      Option.some.injEq, Loop.toOption_eq_some_iff] at hrow
    rcases hrow with ⟨chunkId, hid, _, -, _, -, rfl⟩
    exact hid
  simp only [expectedIdsAt, hrows, hids, bind, Except.bind]
  rfl

theorem countAt_of_read {document : Mapping} {field : String} {expected : Option Int}
    (hread : readCount? document field = some expected) (actual : Nat)
    (htells : found.Tells result) :
    (countAt field actual document found).Tells (scoreCount field actual expected result) := by
  unfold readCount? at hread
  unfold countAt scoreCount
  split at hread
  · rename_i hnone
    rw [← Option.some.inj hread, hnone]
    exact htells
  · rename_i n hint
    rw [← Option.some.inj hread, hint]
    by_cases hsame : n = (actual : Int)
    · simpa [sameCount, Scalar.int?, hsame] using htells.check List.Forall₂.nil
    · simpa [sameCount, Scalar.int?, hsame, Ne.symm hsame] using
        htells.check (List.Forall₂.cons (.count field actual n) List.Forall₂.nil)
  · cases hread

theorem scorePropagation_of_read (report : VerificationReport)
    (findings : Dict String PropagationFinding) {document : Mapping}
    {expected : ExpectedPropagation}
    (hread : readPropagation? render document = some expected) (htells : found.Tells result) :
    ∃ found', Documents.scorePropagation render report findings document found = .ok found' ∧
      found'.Tells (scorePropagation report findings expected result) := by
  rcases readPropagation?_eq_some hread with ⟨hfindings, hexamined, huntraceable, hverdicts,
    hcauses⟩
  rcases rowsAt_of_read hfindings with ⟨rows, hrows, hall⟩
  rcases rowsAt_of_read hverdicts with ⟨verdictRows, hverdictRows, hallVerdicts⟩
  rcases rowsAt_of_read hcauses with ⟨causeRows, hcauseRows, hallCauses⟩
  rcases checkRows_of_read hall (f := findingRow render findings)
    (fun _ _ hrow => findingRow_of_read hrow) htells with ⟨first, hfirst, hfirstTells⟩
  have hnoted := hfirstTells.note
    (telling_plain (unexpectedProblems findings (expectedIds expected)))
  have hcounted := countAt_of_read huntraceable report.chunksUntraceable
    (countAt_of_read hexamined report.chunksExamined hnoted)
  rcases checkRows_of_read hallVerdicts (f := forbiddenVerdictRow render findings)
    (fun _ _ hrow => forbiddenRow_of_read hrow) hcounted with ⟨second, hsecond, hsecondTells⟩
  rcases checkRows_of_read hallCauses (f := forbiddenCauseRow render findings)
    (fun _ _ hrow => forbiddenRow_of_read hrow) hsecondTells with ⟨third, hthird, hthirdTells⟩
  refine ⟨third, ?_, hthirdTells⟩
  simp only [Documents.scorePropagation, Loop.bind_eq_ok]
  exact ⟨rows, hrows, first, hfirst, _, expectedIdsAt_of_read hread, verdictRows, hverdictRows,
    second, hsecond, causeRows, hcauseRows, hthird⟩

theorem skippedAt_of_read (report : VerificationReport) {document : Mapping}
    {expected : ExpectedVisibility}
    (hread : readSkipped? document = some expected.probesSkipped) (htells : found.Tells result) :
    ∃ found', skippedAt report document found = .ok found' ∧
      found'.Tells (scoreSkipped report expected result) := by
  unfold readSkipped? at hread
  unfold skippedAt scoreSkipped
  cases hstated : document.get? (.str "probes_skipped") with
  | none =>
      rw [hstated] at hread
      rw [← Option.some.inj hread]
      exact ⟨found, rfl, htells⟩
  | some value =>
      rw [hstated] at hread
      rcases Option.map_eq_some_iff.mp hread with ⟨texts, htexts, hskipped⟩
      simp only [← hskipped, differingList?_of_read htexts, bind, Except.bind]
      refine ⟨_, rfl, htells.check ?_⟩
      by_cases hsame : texts.toFinset = report.probesSkipped.toFinset
      · simp [hsame]
      · simpa [hsame] using DocumentProblem.Tells.skipped report.probesSkipped texts

theorem readVisibility?_eq_some {document : Mapping} {expected : ExpectedVisibility}
    (hread : readVisibility? render document = some expected) :
    readRows? document "visibility" (readVisibilityRow? render) = some expected.visibility ∧
      readSkipped? document = some expected.probesSkipped := by
  simp only [readVisibility?, Option.bind_eq_bind, Option.bind_eq_some_iff, Option.pure_def,
    Option.some.injEq] at hread
  rcases hread with ⟨rows, hrows, skipped, hskipped, rfl⟩
  exact ⟨hrows, hskipped⟩

theorem scoreVisibility_of_read (report : VerificationReport) {document : Mapping}
    {expected : ExpectedVisibility}
    (hread : readVisibility? render document = some expected) (htells : found.Tells result) :
    ∃ found', Documents.scoreVisibility render report document found = .ok found' ∧
      found'.Tells (scoreVisibility report expected result) := by
  rcases readVisibility?_eq_some hread with ⟨hvisibility, hskipped⟩
  rcases rowsAt_of_read hvisibility with ⟨rows, hrows, hall⟩
  rcases checkRows_of_read hall (f := visibilityRow render (resultsByKey report))
    (fun _ _ hrow => visibilityRow_of_read hrow) htells with ⟨first, hfirst, hfirstTells⟩
  have hkeys : rows.mapM (keyAt render) = .ok (expected.visibility.map VisibilityRow.key) :=
    mapM_of_read hall fun _ _ hrow => (readVisibilityRow?_eq_some hrow).1
  have hnoted := hfirstTells.note
    (telling_plain (notExpectedProblems (resultsByKey report) expected.visibility))
  rw [notExpectedProblems, List.map_map] at hnoted
  rcases skippedAt_of_read report hskipped hnoted with ⟨last, hlast, hlastTells⟩
  refine ⟨last, ?_, hlastTells⟩
  simp only [Documents.scoreVisibility, Loop.bind_eq_ok]
  exact ⟨rows, hrows, first, hfirst, _, hkeys, hlast⟩

theorem expectedDefectsAt_of_read {document : Mapping} {expected : ExpectedVisibility}
    (hread : readVisibility? render document = some expected) :
    expectedDefectsAt render document = .ok (expectedDefects expected) := by
  rcases rowsAt_of_read (readVisibility?_eq_some hread).1 with ⟨rows, hrows, hall⟩
  have hdefects := mapM_of_read hall fun _ _ hrow => defectAt_of_read hrow
  simp only [expectedDefectsAt, hrows, hdefects, Loop.reduceOption_map_ite, bind, Except.bind]
  rfl

theorem proseAt_of_read {document : Mapping} {key : String} {expected : List String}
    (hread : readRows? document key (fun entry => some (textOf render entry)) = some expected) :
    proseAt document key = .ok expected.length := by
  rcases rowsAt_of_read hread with ⟨rows, hrows, hall⟩
  rw [← hall.length_eq]
  exact Value.len_of_iterate hrows

theorem probeRow_tells (defects : Finset (String × String)) (htells : found.Tells result)
    (probe : ProbeResult) :
    (probeRow defects found probe).Tells (scoreProbeRow defects result probe) := by
  unfold probeRow scoreProbeRow
  split
  · exact htells
  · exact { htells with
      negativeSubjects := congrArg (· + 1) htells.negativeSubjects
      falsePositives := by rw [htells.falsePositives] }

theorem foldl_probeRow_tells (defects : Finset (String × String)) (htells : found.Tells result)
    (probes : List ProbeResult) :
    (probes.foldl (probeRow defects) found).Tells
      (probes.foldl (scoreProbeRow defects) result) := by
  induction probes generalizing found result with
  | nil => exact htells
  | cons probe probes ih => exact ih (probeRow_tells defects htells probe)

/-- The last step of the negative set: every false positive is a problem. -/
theorem DocumentScore.Tells.flag (htells : found.Tells result) :
    DocumentScore.Tells
      { found.note ((sortedSet found.falsePositives).map fun subject =>
          .plain (.falsePositive subject)) with
        falsePositives := sortedSet found.falsePositives }
      { result.note ((sortedSet result.falsePositives).map .falsePositive) with
        falsePositives := sortedSet result.falsePositives } := by
  have hplain := telling_plain ((sortedSet result.falsePositives).map .falsePositive)
  rw [List.map_map] at hplain
  rw [htells.falsePositives]
  exact { htells.note hplain with falsePositives := rfl }

theorem scoreNegativeSet_of_read (report : VerificationReport)
    (findings : Dict String PropagationFinding) {document : Mapping} {expected : ExpectedClean}
    (hread : readRows? document "must_not_flag" (readNegative? render) =
      some expected.mustNotFlag)
    (htells : found.Tells result) (expectedFindings : Finset String)
    (defects : Finset (String × String)) :
    ∃ found', Documents.scoreNegativeSet render found document findings report expectedFindings
        defects = .ok found' ∧
      found'.Tells
        (scoreNegativeSet result expected findings report expectedFindings defects) := by
  rcases rowsAt_of_read hread with ⟨rows, hrows, hall⟩
  have hsilent : DocumentScore.Tells
      { found with
        negativeSubjects := found.negativeSubjects +
          (report.chunksExamined - expectedFindings.card)
        falsePositives := found.falsePositives ++
          findings.keys.filter fun chunkId => decide (chunkId ∉ expectedFindings) }
      { result with
        negativeSubjects := result.negativeSubjects +
          (report.chunksExamined - expectedFindings.card)
        falsePositives := result.falsePositives ++
          findings.keys.filter fun chunkId => decide (chunkId ∉ expectedFindings) } :=
    { htells with
      negativeSubjects := congrArg (· + _) htells.negativeSubjects
      falsePositives := congrArg (· ++ _) htells.falsePositives }
  rcases Loop.foldlM_follows hall (fun _ _ _ _ hrow htells => negativeRow_of_read hrow htells)
    (foldl_probeRow_tells defects hsilent report.probes) with
    ⟨last, hlast, hlastTells⟩
  simp only [Documents.scoreNegativeSet, Loop.bind_eq_ok, Loop.pure_eq_ok]
  refine ⟨_, ⟨rows, hrows, last, hlast, rfl⟩, ?_⟩
  exact hlastTells.flag

theorem readClean?_eq_some {document : Mapping} {expected : ExpectedClean}
    (hread : readClean? render document = some expected) :
    proseAt document "must_not_conclude" = .ok expected.mustNotConclude.length ∧
      proseAt document "properties_absent" = .ok expected.propertiesAbsent.length ∧
      readRows? document "must_not_flag" (readNegative? render) = some expected.mustNotFlag := by
  simp only [readClean?, Option.bind_eq_bind, Option.bind_eq_some_iff, Option.pure_def,
    Option.some.injEq] at hread
  rcases hread with ⟨conclude, hconclude, absent, habsent, rows, hrows, rfl⟩
  exact ⟨proseAt_of_read hconclude, proseAt_of_read habsent, hrows⟩

theorem scoreClean_of_read (report : VerificationReport)
    (findings : Dict String PropagationFinding) {propagation visibility clean : Mapping}
    {truth : TruthSet}
    (hpropagation : readPropagation? render propagation = some truth.propagation)
    (hvisibility : readVisibility? render visibility = some truth.visibility)
    (hclean : readClean? render clean = some truth.clean) (htells : found.Tells result) :
    ∃ found', Documents.scoreClean render report findings propagation visibility clean found =
        .ok found' ∧
      found'.Tells (scoreClean report findings truth result) := by
  rcases readClean?_eq_some hclean with ⟨hconclude, habsent, hrows⟩
  have hprose : DocumentScore.Tells
      { found with
        uncheckedProse := found.uncheckedProse + truth.clean.mustNotConclude.length +
          truth.clean.propertiesAbsent.length }
      { result with
        uncheckedProse := result.uncheckedProse + truth.clean.mustNotConclude.length +
          truth.clean.propertiesAbsent.length } :=
    { htells with uncheckedProse := congrArg (· + _ + _) htells.uncheckedProse }
  rcases scoreNegativeSet_of_read report findings hrows hprose
    (expectedIds truth.propagation) (expectedDefects truth.visibility) with
    ⟨last, hlast, hlastTells⟩
  refine ⟨last, ?_, hlastTells⟩
  simp only [Documents.scoreClean, Loop.bind_eq_ok]
  exact ⟨_, expectedIdsAt_of_read hpropagation, _, hconclude, _, habsent, _,
    expectedDefectsAt_of_read hvisibility, hlast⟩

end ByDocument

/-! ## The whole score -/

theorem Documents.truth?_eq_some {render : Value → String} {documents : Documents}
    {truth : TruthSet} (hread : documents.truth? render = some truth) :
    readPropagation? render documents.propagation = some truth.propagation ∧
      readVisibility? render documents.visibility = some truth.visibility ∧
      readClean? render documents.clean = some truth.clean ∧
      readRows? documents.unverifiable "expected_unverifiable" (readSubject? render) =
        some truth.unverifiable := by
  simp only [Documents.truth?, Option.bind_eq_bind, Option.bind_eq_some_iff, Option.pure_def,
    Option.some.injEq] at hread
  rcases hread with ⟨propagation, hpropagation, visibility, hvisibility, clean, hclean, subjects,
    hsubjects, rfl⟩
  exact ⟨hpropagation, hvisibility, hclean, hsubjects⟩

/-- Documents that state a truth set are scored as it is: the scorer completes on every report, with
the same counts and false positives and with problems that tell the same. -/
theorem Documents.score_of_truth? {render : Value → String} {documents : Documents}
    {truth : TruthSet} (hread : documents.truth? render = some truth) (report : VerificationReport)
    (scenario variant : String) :
    ∃ found, documents.score render report scenario variant = .ok found ∧
      found.Tells (Evaluate.score report truth scenario variant) := by
  rcases Documents.truth?_eq_some hread with ⟨hpropagation, hvisibility, hclean, hsubjects⟩
  have hstart : DocumentScore.Tells { scenario := scenario, variant := variant }
      { scenario := scenario, variant := variant } :=
    ⟨rfl, rfl, List.Forall₂.nil, rfl, rfl, rfl, rfl, rfl⟩
  rcases scorePropagation_of_read report
    (Dict.ofValues PropagationFinding.chunkId report.propagation) hpropagation hstart
    with ⟨first, hfirst, hfirstTells⟩
  rcases scoreVisibility_of_read report hvisibility hfirstTells with
    ⟨second, hsecond, hsecondTells⟩
  rcases scoreClean_of_read report
    (Dict.ofValues PropagationFinding.chunkId report.propagation) hpropagation
    hvisibility hclean hsecondTells with ⟨third, hthird, hthirdTells⟩
  rcases rowsAt_of_read hsubjects with ⟨rows, hrows, hall⟩
  rcases checkRows_of_read hall
    (f := unverifiableRow render report
      (Dict.ofValues PropagationFinding.chunkId report.propagation))
    (fun _ _ hrow => unverifiableRow_of_read hrow) hthirdTells with ⟨last, hlast, hlastTells⟩
  refine ⟨last, ?_, hlastTells⟩
  simp only [Documents.score, Documents.scoreUnverifiable, Loop.bind_eq_ok]
  exact ⟨first, hfirst, second, hsecond, third, hthird, rows, hrows, hlast⟩

/-- Files that load and whose documents state a truth set are scored as it is: the scorer completes
on every report, with the same counts and false positives and with problems that tell the same. -/
theorem score_of_read {Path : Type} {files : Files Path} {depth : ℕ} {expectedDir : String → Path}
    {documents : Documents} {truth : TruthSet}
    (hloads : files.Loads depth expectedDir documents)
    (hread : documents.truth? files.render = some truth) (report : VerificationReport)
    (scenario variant : String) :
    ∃ found, files.score depth expectedDir report scenario variant = .ok found ∧
      found.Tells (score report truth scenario variant) := by
  rcases Documents.score_of_truth? hread report scenario variant with ⟨found, hfound, htells⟩
  exact ⟨found, Files.score_eq_ok_iff.mpr ⟨documents, hloads, hfound⟩, htells⟩

/-- What the variant with an orphaned chunk expects of it. -/
def orphanedFindings : List (Scalar × Value) :=
  [(.str "chunks_examined", .scalar (.int 2)), (.str "chunks_untraceable", .scalar (.int 1)),
    (.str "expected_findings", .list [.dict [(.str "chunk_id", .str "c-0092"),
      (.str "verdict", .str "unverifiable"), (.str "cause", .str "undetermined")]])]

/-- What it says cannot be verified. -/
def orphanedSubjects : List (Scalar × Value) :=
  [(.str "expected_unverifiable", .list [.dict [(.str "subject", .str "chunk c-0092")]])]

/-- Its directory, with these two files. -/
def orphanedFiles : Files String where
  text? path :=
    if path = "faulted/expected-propagation.yaml" then some "chunks_examined: 2"
    else if path = "faulted/expected-unverifiable.yaml" then some "expected_unverifiable:"
    else none
  safeLoad? text :=
    if text = "chunks_examined: 2" then some (.dict orphanedFindings)
    else if text = "expected_unverifiable:" then some (.dict orphanedSubjects)
    else none
  resolve path _ := path
  render _ := ""

/-- What is loaded from it. -/
def orphanedDocuments : Documents where
  propagation := mappingOf orphanedFindings
  unverifiable := mappingOf orphanedSubjects

theorem orphaned_loads : orphanedFiles.Loads 1 ("faulted/" ++ ·) orphanedDocuments :=
  ⟨rfl, rfl, rfl, rfl⟩

/-- What the two files state. -/
def orphanedTruth : TruthSet where
  propagation := {
    expectedFindings := [{
      chunkId := "c-0092"
      verdict := some "unverifiable"
      cause := some "undetermined" }]
    chunksExamined := some 2
    chunksUntraceable := some 1 }
  visibility := { visibility := [] }
  unverifiable := ["chunk c-0092"]

/-- A report that says the chunk was contradicted. -/
def orphanedReport : VerificationReport where
  chunksExamined := 2
  chunksUntraceable := 0
  propagation := [{
    chunkId := "c-0092"
    verdict := .contradicted
    cause := .undetermined
    observed := { state := .unknown } }]
  probes := []
  probesSkipped := []
  isPartial := false

theorem score_of_read_orphaned :
    ∃ found, orphanedFiles.score 1 ("faulted/" ++ ·) orphanedReport "orphaned-chunk" "faulted" =
        .ok found ∧
      found.Tells (score orphanedReport orphanedTruth "orphaned-chunk" "faulted") :=
  score_of_read orphaned_loads rfl orphanedReport "orphaned-chunk" "faulted"

end Evaluate

end Tearline
