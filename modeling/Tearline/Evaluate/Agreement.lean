import Tearline.Evaluate.Conformance
import Tearline.Evaluate.Rate

/-!
# When a score passes

A score has no problems exactly when the report agrees with the four files of the truth set, each
in its own way.  The statement is in terms of the findings and the results of the report; neither
the texts of the problems nor the order in which they are recorded occur in it.

Main definitions:

- Structure {lit}`Agrees`: what the four files ask of a report.

Main results:

- Theorem {lit}`subjectProblems_eq_nil_iff`: what the subjects of the last file say.
- Theorem {lit}`passed_iff_agrees`: a score passes exactly when the report agrees.
-/

namespace Tearline

namespace Evaluate

/-! ## Texts with a known start or end -/

theorem startsWith_iff (start text : String) :
    startsWith start text = true ↔ ∃ rest, text = start ++ rest := by
  rw [startsWith, List.isPrefixOf_iff_prefix]
  constructor
  · intro hstart
    rcases hstart with ⟨rest, hrest⟩
    refine ⟨String.ofList rest, ?_⟩
    rw [← String.toList_inj, String.toList_append, String.toList_ofList, hrest]
  · intro hstart
    rcases hstart with ⟨rest, rfl⟩
    exact ⟨rest.toList, (String.toList_append).symm⟩

theorem endsWith_iff (finish text : String) :
    endsWith finish text = true ↔ ∃ rest, text = rest ++ finish := by
  rw [endsWith, List.isSuffixOf_iff_suffix]
  constructor
  · intro hfinish
    rcases hfinish with ⟨rest, hrest⟩
    refine ⟨String.ofList rest, ?_⟩
    rw [← String.toList_inj, String.toList_append, String.toList_ofList, hrest]
  · intro hfinish
    rcases hfinish with ⟨rest, rfl⟩
    exact ⟨rest.toList, (String.toList_append).symm⟩

theorem dropStart_append (start rest : String) : dropStart start (start ++ rest) = rest := by
  rw [dropStart, String.toList_append, List.drop_left, String.ofList_toList]

theorem removeEnd_append (rest finish : String) : removeEnd finish (rest ++ finish) = rest := by
  rw [removeEnd, if_pos ((endsWith_iff _ _).mpr ⟨rest, rfl⟩), String.toList_append,
    List.length_append, Nat.add_sub_cancel, List.take_left, String.ofList_toList]

/-! ## Subjects that cannot be verified -/

/-- The subject is the cause of a chunk's mismatch.  The blank before the chunk and the one after
it may be the same. -/
def IsCauseOf (subject chunkId : String) : Prop :=
  subject = "cause of the " ++ chunkId ++ " mismatch" ∨
    subject = "cause of the mismatch" ∧ chunkId = "mismatch"

/-- The only text that ends as a cause does and whose end reaches into the start. -/
theorem eq_mismatch_of_endsWith {rest : String}
    (hends : endsWith " mismatch" ("cause of the " ++ rest) = true)
    (hrest : endsWith " mismatch" rest = false) : rest = "mismatch" := by
  have hsuffix : rest.toList <:+ " mismatch".toList := by
    rw [endsWith, List.isSuffixOf_iff_suffix, String.toList_append] at hends
    rcases List.suffix_or_suffix_of_suffix hends (List.suffix_append _ _) with hlong | hshort
    · rw [endsWith, List.isSuffixOf_iff_suffix.mpr hlong] at hrest
      cases hrest
    · exact hshort
  have hlisted : rest ∈ (" mismatch".toList.tails).map String.ofList :=
    List.mem_map.mpr ⟨rest.toList, (List.mem_tails _ _).mpr hsuffix, String.ofList_toList⟩
  have hall : ∀ text ∈ (" mismatch".toList.tails).map String.ofList,
      endsWith " mismatch" ("cause of the " ++ text) = true →
        endsWith " mismatch" text = false → text = "mismatch" := by
    decide +kernel
  exact hall rest hlisted hends hrest

/-- What the scorer reads of such a subject. -/
theorem causeSubject_iff (subject chunkId : String) :
    ((startsWith "cause of the " subject && endsWith " mismatch" subject) = true ∧
        removeEnd " mismatch" (dropStart "cause of the " subject) = chunkId) ↔
      IsCauseOf subject chunkId := by
  rw [Bool.and_eq_true]
  constructor
  · intro hread
    rcases hread with ⟨⟨hstart, hends⟩, hid⟩
    rcases (startsWith_iff _ _).mp hstart with ⟨rest, rfl⟩
    rw [dropStart_append] at hid
    cases hrest : endsWith " mismatch" rest with
    | true =>
        rcases (endsWith_iff _ _).mp hrest with ⟨named, rfl⟩
        rw [removeEnd_append] at hid
        rw [hid, ← String.append_assoc]
        exact Or.inl rfl
    | false =>
        have hmismatch := eq_mismatch_of_endsWith hends hrest
        rw [removeEnd, hrest] at hid
        rw [hmismatch] at hid ⊢
        exact Or.inr ⟨by decide, hid.symm⟩
  · intro hcause
    rcases hcause with rfl | ⟨rfl, rfl⟩
    · refine ⟨⟨(startsWith_iff _ _).mpr ⟨chunkId ++ " mismatch", String.append_assoc⟩,
        (endsWith_iff _ _).mpr ⟨_, rfl⟩⟩, ?_⟩
      rw [String.append_assoc, dropStart_append, removeEnd_append]
    · decide +kernel

/-- What an entry of the last file says of a report. -/
def SubjectHolds (report : VerificationReport) (subject : String) : Prop :=
  (∃ id, subject = "chunk " ++ id ∧
      ∃ f ∈ report.propagation, f.chunkId = id ∧ f.verdict = .unverifiable) ∨
    (∃ id, subject = "probe " ++ id ∧ id ∈ report.probesSkipped) ∨
    ∃ id, IsCauseOf subject id ∧
      ∃ f ∈ report.propagation, f.chunkId = id ∧ f.cause = .undetermined

theorem value_eq_unverifiable_iff (verdict : Verdict) :
    verdict.value = "unverifiable" ↔ verdict = .unverifiable := by
  cases verdict <;> decide

theorem value_eq_undetermined_iff (cause : MismatchCause) :
    cause.value = "undetermined" ↔ cause = .undetermined := by
  cases cause <;> decide

/-- The first two characters tell the forms of a subject apart. -/
def initialOf (text : String) : List Char :=
  text.toList.take 2

theorem initialOf_append {start : String} (h : 2 ≤ start.toList.length) (rest : String) :
    initialOf (start ++ rest) = initialOf start := by
  rw [initialOf, String.toList_append, List.take_append_of_le_length h, initialOf]

theorem initialOf_chunk (id : String) : initialOf ("chunk " ++ id) = ['c', 'h'] :=
  initialOf_append (by decide) id

theorem initialOf_probe (id : String) : initialOf ("probe " ++ id) = ['p', 'r'] :=
  initialOf_append (by decide) id

theorem initialOf_of_isCauseOf {subject id : String} (h : IsCauseOf subject id) :
    initialOf subject = ['c', 'a'] := by
  rcases h with rfl | ⟨rfl, -⟩
  · rw [String.append_assoc]
    exact initialOf_append (by decide) _
  · decide

/-- Every finding of a report is found under its chunk, and nothing else is. -/
def Filed (report : VerificationReport) (findings : Dict String PropagationFinding) : Prop :=
  ∀ id f, findings.get? id = some f ↔ f ∈ report.propagation ∧ f.chunkId = id

section Subjects

variable {report : VerificationReport} {findings : Dict String PropagationFinding}

/-- What is found under an id is a finding of the report on the chunk with the id. -/
theorem exists_found_iff (hfiled : Filed report findings) (id : String)
    (P : PropagationFinding → Prop) :
    (∃ f, findings.get? id = some f ∧ P f) ↔ ∃ f ∈ report.propagation, f.chunkId = id ∧ P f := by
  simp only [hfiled id, and_assoc]

/-- A subject that names a chunk. -/
theorem subjectProblems_chunk_iff (hfiled : Filed report findings) (id : String) :
    subjectProblems report findings ("chunk " ++ id) = [] ↔
      ∃ f ∈ report.propagation, f.chunkId = id ∧ f.verdict = .unverifiable := by
  rw [subjectProblems, if_pos ((startsWith_iff _ _).mpr ⟨id, rfl⟩), dropStart_append,
    ← exists_found_iff hfiled]
  dsimp only
  cases findings.get? id with
  | none => simp
  | some f => simp [value_eq_unverifiable_iff]

/-- A subject that names a probe. -/
theorem subjectProblems_probe_iff (id : String) :
    subjectProblems report findings ("probe " ++ id) = [] ↔ id ∈ report.probesSkipped := by
  have hchunk : startsWith "chunk " ("probe " ++ id) = false := by
    rw [Bool.eq_false_iff, ne_eq, startsWith_iff]
    intro hstart
    rcases hstart with ⟨other, hother⟩
    have hinitial := initialOf_probe id
    rw [hother, initialOf_chunk] at hinitial
    revert hinitial
    decide
  rw [subjectProblems, hchunk, if_neg Bool.false_ne_true,
    if_pos ((startsWith_iff _ _).mpr ⟨id, rfl⟩), dropStart_append]
  simp

/-- A subject that names the cause of a mismatch. -/
theorem subjectProblems_cause_iff (hfiled : Filed report findings) {subject id : String}
    (hcause : IsCauseOf subject id) :
    subjectProblems report findings subject = [] ↔
      ∃ f ∈ report.propagation, f.chunkId = id ∧ f.cause = .undetermined := by
  have hother : ∀ start other, initialOf (start ++ other) ≠ ['c', 'a'] →
      subject ≠ start ++ other := by
    intro start other hinitial heq
    rw [← heq] at hinitial
    exact hinitial (initialOf_of_isCauseOf hcause)
  have hchunk : ¬ startsWith "chunk " subject = true := by
    rw [startsWith_iff, not_exists]
    intro other
    exact hother _ _ (by rw [initialOf_chunk]; decide)
  have hprobe : ¬ startsWith "probe " subject = true := by
    rw [startsWith_iff, not_exists]
    intro other
    exact hother _ _ (by rw [initialOf_probe]; decide)
  rcases (causeSubject_iff subject id).mpr hcause with ⟨hform, hid⟩
  rw [subjectProblems, if_neg hchunk, if_neg hprobe, if_pos hform, hid,
    ← exists_found_iff hfiled]
  dsimp only
  cases findings.get? id with
  | none => simp
  | some f => simp [value_eq_undetermined_iff]

/-- An entry of the last file has no problems exactly when it holds. -/
theorem subjectProblems_eq_nil_iff (hfiled : Filed report findings) (subject : String) :
    subjectProblems report findings subject = [] ↔ SubjectHolds report subject := by
  constructor
  · intro hnone
    by_cases hchunk : startsWith "chunk " subject = true
    · rcases (startsWith_iff _ _).mp hchunk with ⟨id, rfl⟩
      exact Or.inl ⟨id, rfl, (subjectProblems_chunk_iff hfiled id).mp hnone⟩
    · by_cases hprobe : startsWith "probe " subject = true
      · rcases (startsWith_iff _ _).mp hprobe with ⟨id, rfl⟩
        exact Or.inr (Or.inl ⟨id, rfl, (subjectProblems_probe_iff id).mp hnone⟩)
      · by_cases hform :
          (startsWith "cause of the " subject && endsWith " mismatch" subject) = true
        · have hcause := (causeSubject_iff subject _).mp ⟨hform, rfl⟩
          exact Or.inr (Or.inr ⟨_, hcause, (subjectProblems_cause_iff hfiled hcause).mp hnone⟩)
        · rw [subjectProblems, if_neg hchunk, if_neg hprobe, if_neg hform] at hnone
          cases hnone
  · intro hholds
    rcases hholds with ⟨id, rfl, hfinding⟩ | ⟨id, rfl, hskipped⟩ | ⟨id, hcause, hfinding⟩
    · exact (subjectProblems_chunk_iff hfiled id).mpr hfinding
    · exact (subjectProblems_probe_iff id).mpr hskipped
    · exact (subjectProblems_cause_iff hfiled hcause).mpr hfinding

end Subjects

/-! ## Findings -/

/-- What the first file asks of a report. -/
structure PropagationAgrees (report : VerificationReport) (document : ExpectedPropagation) :
    Prop where
  expected : ∀ row ∈ document.expectedFindings, ∃ f ∈ report.propagation, f.chunkId = row.chunkId ∧
    (∀ verdict, stated row.verdict = some verdict → f.verdict.value = verdict) ∧
      ∀ cause, stated row.cause = some cause → f.cause.value = cause
  noOther : ∀ f ∈ report.propagation, ∃ row ∈ document.expectedFindings, row.chunkId = f.chunkId
  examined : ∀ count, document.chunksExamined = some count → (report.chunksExamined : Int) = count
  untraceable : ∀ count, document.chunksUntraceable = some count →
    (report.chunksUntraceable : Int) = count
  verdicts : ∀ row ∈ document.forbiddenVerdicts, ∀ f ∈ report.propagation,
    f.chunkId = row.chunkId → f.verdict.value ≠ row.value
  causes : ∀ row ∈ document.forbiddenCauses, ∀ f ∈ report.propagation,
    f.chunkId = row.chunkId → f.cause.value ≠ row.value

theorem countProblems_eq_nil_iff (field : String) (actual : Nat) (expected : Option Int) :
    countProblems field actual expected = [] ↔
      ∀ count, expected = some count → (actual : Int) = count := by
  unfold countProblems
  cases expected with
  | none => simp
  | some count => simp

section Findings

variable {report : VerificationReport} {findings : Dict String PropagationFinding}

theorem findingProblems_eq_nil_iff (hfiled : Filed report findings) (row : FindingRow) :
    findingProblems findings row = [] ↔
      ∃ f ∈ report.propagation, f.chunkId = row.chunkId ∧
        (∀ verdict, stated row.verdict = some verdict → f.verdict.value = verdict) ∧
          ∀ cause, stated row.cause = some cause → f.cause.value = cause := by
  rw [← exists_found_iff hfiled, findingProblems]
  cases findings.get? row.chunkId with
  | none => simp
  | some f => cases stated row.verdict <;> cases stated row.cause <;> simp

theorem unexpectedProblems_eq_nil_iff (hfiled : Filed report findings)
    (document : ExpectedPropagation) :
    unexpectedProblems findings (expectedIds document) = [] ↔
      ∀ f ∈ report.propagation, ∃ row ∈ document.expectedFindings, row.chunkId = f.chunkId := by
  simp only [unexpectedProblems, List.map_eq_nil_iff, List.filter_eq_nil_iff, decide_eq_true_eq,
    not_not, Dict.mem_keys_iff, hfiled _ _, expectedIds, List.mem_toFinset, List.mem_map]
  constructor
  · intro hall f hf
    exact hall f.chunkId ⟨f, hf, rfl⟩
  · intro hall id hid
    rcases hid with ⟨f, hf, rfl⟩
    exact hall f hf

theorem forbiddenVerdictProblems_eq_nil_iff (hfiled : Filed report findings)
    (row : ForbiddenRow) :
    forbiddenVerdictProblems findings row = [] ↔
      ∀ f ∈ report.propagation, f.chunkId = row.chunkId → f.verdict.value ≠ row.value := by
  have hfound : forbiddenVerdictProblems findings row = [] ↔
      ∀ f, findings.get? row.chunkId = some f → f.verdict.value ≠ row.value := by
    unfold forbiddenVerdictProblems
    cases findings.get? row.chunkId with
    | none => simp
    | some f => simp
  simp only [hfound, hfiled _ _, and_imp]

theorem forbiddenCauseProblems_eq_nil_iff (hfiled : Filed report findings)
    (row : ForbiddenRow) :
    forbiddenCauseProblems findings row = [] ↔
      ∀ f ∈ report.propagation, f.chunkId = row.chunkId → f.cause.value ≠ row.value := by
  have hfound : forbiddenCauseProblems findings row = [] ↔
      ∀ f, findings.get? row.chunkId = some f → f.cause.value ≠ row.value := by
    unfold forbiddenCauseProblems
    cases findings.get? row.chunkId with
    | none => simp
    | some f => simp
  simp only [hfound, hfiled _ _, and_imp]

/-- The first file has no problems exactly when the findings agree with it. -/
theorem propagationProblems_eq_nil_iff (hfiled : Filed report findings)
    (document : ExpectedPropagation) :
    propagationProblems report findings document = [] ↔ PropagationAgrees report document := by
  simp only [propagationProblems, List.append_eq_nil_iff, List.flatMap_eq_nil_iff,
    findingProblems_eq_nil_iff hfiled, unexpectedProblems_eq_nil_iff hfiled,
    countProblems_eq_nil_iff, forbiddenVerdictProblems_eq_nil_iff hfiled,
    forbiddenCauseProblems_eq_nil_iff hfiled]
  constructor
  · intro hnone
    rcases hnone with ⟨⟨⟨⟨⟨hexpected, hother⟩, hexamined⟩, huntraceable⟩, hverdicts⟩, hcauses⟩
    exact ⟨hexpected, hother, hexamined, huntraceable, hverdicts, hcauses⟩
  · intro hagrees
    exact ⟨⟨⟨⟨⟨hagrees.expected, hagrees.noOther⟩, hagrees.examined⟩, hagrees.untraceable⟩,
      hagrees.verdicts⟩, hagrees.causes⟩

end Findings

/-! ## The other files -/

/-- What the second file asks of a report. -/
structure VisibilityAgrees (report : VerificationReport) (document : ExpectedVisibility) :
    Prop where
  rows : ∀ row ∈ document.visibility, ∃ r, (resultsByKey report).get? row.key = some r ∧
    RowChecked row r
  noOther : ∀ r ∈ report.probes, ∃ row ∈ document.visibility, row.key = keyOf r
  skipped : ∀ declared, document.probesSkipped = some declared →
    declared.toFinset = report.probesSkipped.toFinset

/-- What the negative set asks of a report: nothing is over or under retrieved where no row expects
it, a named chunk has no finding and a named probe no contradicted result. -/
structure NegativeAgrees (report : VerificationReport) (truth : TruthSet) : Prop where
  rows : ∀ r ∈ report.probes, keyOf r ∉ expectedDefects truth.visibility →
    r.overRetrieved = ∅ ∧ r.underRetrieved = ∅
  chunks : ∀ row ∈ truth.clean.mustNotFlag, ∀ subject, row.subject = some subject →
    ∀ id, subject.chunk = some id → ∀ f ∈ report.propagation, f.chunkId ≠ id
  probes : ∀ row ∈ truth.clean.mustNotFlag, ∀ subject, row.subject = some subject →
    ∀ id, subject.probe = some id → ∀ r ∈ report.probes, r.probeId = id →
      r.verdict ≠ .contradicted

/-- What the four files ask of a report. -/
structure Agrees (report : VerificationReport) (truth : TruthSet) : Prop where
  propagation : PropagationAgrees report truth.propagation
  visibility : VisibilityAgrees report truth.visibility
  negative : NegativeAgrees report truth
  unverifiable : ∀ subject ∈ truth.unverifiable, SubjectHolds report subject

/-- The second file has no problems exactly when the results agree with it. -/
theorem visibilityProblems_eq_nil_iff_agrees (report : VerificationReport)
    (document : ExpectedVisibility) :
    visibilityProblems report document = [] ↔ VisibilityAgrees report document := by
  have hskipped : skippedProblems report document = [] ↔
      ∀ declared, document.probesSkipped = some declared →
        declared.toFinset = report.probesSkipped.toFinset := by
    unfold skippedProblems
    cases document.probesSkipped with
    | none => simp
    | some declared => simp
  rw [visibilityProblems_eq_nil_iff, hskipped]
  simp only [List.mem_map]
  constructor
  · intro hnone
    exact ⟨hnone.1, hnone.2.1, hnone.2.2⟩
  · intro hagrees
    exact ⟨hagrees.rows, hagrees.noOther, hagrees.skipped⟩

/-- No entry of the negative set is a false positive exactly when no named chunk has a finding and
no named probe a contradicted result. -/
theorem rowFalsePositives_eq_nil_iff (report : VerificationReport) (row : NegativeRow) :
    rowFalsePositives (Dict.ofValues PropagationFinding.chunkId report.propagation)
        (flaggedProbes report) row = [] ↔
      ∀ subject, row.subject = some subject →
        (∀ id, subject.chunk = some id → ∀ f ∈ report.propagation, f.chunkId ≠ id) ∧
          ∀ id, subject.probe = some id → ∀ r ∈ report.probes, r.probeId = id →
            r.verdict ≠ .contradicted := by
  unfold rowFalsePositives
  cases row.subject with
  | none => simp
  | some subject =>
      simp only [namedFalsePositives, List.append_eq_nil_iff, Option.toList_eq_nil_iff,
        Option.filter_eq_none_iff, isSome_finding_iff, decide_eq_true_eq, mem_flaggedProbes,
        Option.some.injEq, forall_eq', not_exists, not_and]

/-- There are no false positives exactly when every finding is expected and the report agrees with
the negative set. -/
theorem falsePositiveSubjects_eq_nil_iff {report : VerificationReport} {truth : TruthSet}
    (hfiled : Filed report (Dict.ofValues PropagationFinding.chunkId report.propagation)) :
    falsePositiveSubjects report (Dict.ofValues PropagationFinding.chunkId report.propagation)
        truth = [] ↔
      (∀ f ∈ report.propagation,
        ∃ row ∈ truth.propagation.expectedFindings, row.chunkId = f.chunkId) ∧
      NegativeAgrees report truth := by
  have hunexpected := unexpectedProblems_eq_nil_iff hfiled truth.propagation
  rw [unexpectedProblems, List.map_eq_nil_iff] at hunexpected
  simp only [falsePositiveSubjects, List.append_eq_nil_iff, List.flatMap_eq_nil_iff, hunexpected,
    probeFalsePositives_eq_nil_iff, rowFalsePositives_eq_nil_iff, and_assoc]
  refine and_congr_right fun _ => ?_
  constructor
  · intro hnone
    rcases hnone with ⟨hrows, hnamed⟩
    exact ⟨hrows, fun row hrow subject hsubject => (hnamed row hrow subject hsubject).1,
      fun row hrow subject hsubject => (hnamed row hrow subject hsubject).2⟩
  · intro hagrees
    exact ⟨hagrees.rows, fun row hrow subject hsubject =>
      ⟨hagrees.chunks row hrow subject hsubject, hagrees.probes row hrow subject hsubject⟩⟩

/-! ## The whole score -/

/-- Two findings of a report are on different chunks. -/
theorem filed_of_verify {scenario : Scenario} {variant : Variant} {retrieve : Option Retrieve}
    {site : String} {report : VerificationReport}
    (hverify : verify scenario variant retrieve site = .ok report) :
    Filed report (Dict.ofValues PropagationFinding.chunkId report.propagation) := by
  rcases (verify_eq_ok_iff _ _ _ _ _).mp hverify with ⟨hcheck, -⟩
  intro id f
  apply Dict.get?_ofValues_eq_some_iff_of_inj
  intro f hf f' hf' hid
  rcases (mem_findings_iff hcheck f).mp hf with ⟨chunk, hchunk, hok⟩
  rcases (mem_findings_iff hcheck f').mp hf' with ⟨chunk', hchunk', hok'⟩
  rw [(checkChunk_observed hok).1, (checkChunk_observed hok').1] at hid
  rw [List.inj_on_of_nodup_map variant.nodup_ids hchunk hchunk' hid, hok'] at hok
  exact (Option.some.inj (Except.ok.inj hok)).symm

/-- Over findings that are filed, a score passes exactly when the report agrees with the truth
set. -/
theorem passed_iff_of_filed {report : VerificationReport}
    (hfiled : Filed report (Dict.ofValues PropagationFinding.chunkId report.propagation))
    (truth : TruthSet) (slug name : String) :
    (score report truth slug name).passed = true ↔ Agrees report truth := by
  rw [Score.passed, List.isEmpty_iff, score_problems_eq_nil_iff]
  simp only [propagationProblems_eq_nil_iff hfiled, visibilityProblems_eq_nil_iff_agrees,
    falsePositiveSubjects_eq_nil_iff hfiled, subjectProblems_eq_nil_iff hfiled]
  constructor
  · intro hpassed
    rcases hpassed with ⟨hpropagation, hvisibility, ⟨-, hnegative⟩, hsubjects⟩
    exact ⟨hpropagation, hvisibility, hnegative, hsubjects⟩
  · intro hagrees
    exact ⟨hagrees.propagation, hagrees.visibility,
      ⟨hagrees.propagation.noOther, hagrees.negative⟩, hagrees.unverifiable⟩

/-- The score of a report that {lit}`verify` made passes exactly when the report agrees with the
truth set. -/
theorem passed_iff_agrees {scenario : Scenario} {variant : Variant} {retrieve : Option Retrieve}
    {site : String} {report : VerificationReport}
    (hverify : verify scenario variant retrieve site = .ok report) (truth : TruthSet)
    (slug name : String) :
    (score report truth slug name).passed = true ↔ Agrees report truth :=
  passed_iff_of_filed (filed_of_verify hverify) truth slug name

/-- A truth set that expects the lost page of {lit}`rota` and says what cannot be verified. -/
def rotaExpected : TruthSet where
  propagation :=
    { expectedFindings := [{ chunkId := "c-rota", verdict := some "unverifiable" }],
      chunksExamined := some 1, forbiddenVerdicts := [⟨"c-rota", "contradicted"⟩] }
  visibility := { visibility := [] }
  clean := { mustNotFlag := [{ subject := some { chunk := some "c-elsewhere" } }] }
  unverifiable := ["chunk c-rota", "cause of the c-rota mismatch"]

theorem passed_iff_agrees_rota : Agrees rotaReport rotaExpected :=
  (passed_iff_agrees (by decide +kernel : verify rota rotaIndex none "simulated" = .ok rotaReport)
    rotaExpected "rota" "live").mp (by decide +kernel)

end Evaluate

end Tearline
