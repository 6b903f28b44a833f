import Tearline.Evaluate.Score

/-!
# What a passing score says about visibility

A score compares the lists a row carries and, for rows that are not expected to be defective,
requires that nothing is over or under retrieved.  A list that a row leaves out may be read by
neither.

Main results:

- Theorem {lit}`score_problems_eq_nil_iff`: what a score without problems says.
- Theorem {lit}`passes_reportWithList`: a score does not read a list that no row carries.
- Theorem {lit}`passing_conforms_iff`: when every passing report conforms to every row.
-/

namespace Tearline

namespace Evaluate

/-! ## Passing -/

theorem sortedSet_eq_nil_iff (xs : List String) : sortedSet xs = [] ↔ xs = [] := by
  constructor
  · intro hnil
    apply List.eq_nil_iff_forall_not_mem.mpr
    intro x hx
    have hmem : x ∈ sortedSet xs := List.mem_mergeSort.mpr (List.mem_dedup.mpr hx)
    rw [hnil] at hmem
    cases hmem
  · rintro rfl
    simp [sortedSet]

/-- A score has no problems exactly when no file has any. -/
theorem score_problems_eq_nil_iff (report : VerificationReport) (truth : TruthSet)
    (scenario variant : String) :
    (score report truth scenario variant).problems = [] ↔
      let findings := Dict.ofValues PropagationFinding.chunkId report.propagation
      propagationProblems report findings truth.propagation = [] ∧
        visibilityProblems report truth.visibility = [] ∧
        falsePositiveSubjects report findings truth = [] ∧
        ∀ subject ∈ truth.unverifiable, subjectProblems report findings subject = [] := by
  rw [score_problems]
  simp only [List.append_eq_nil_iff, List.map_eq_nil_iff, sortedSet_eq_nil_iff,
    List.flatMap_eq_nil_iff, and_assoc]

/-- A result has the lists and the outcome that a row carries. -/
structure RowChecked (row : VisibilityRow) (r : ProbeResult) : Prop where
  lists : ∀ label authored, row.authored label = some authored →
    authored.toFinset = resultList r label
  outcome : ∀ outcome, stated row.outcome = some outcome → r.outcome.value = outcome

theorem mem_listLabels (label : ListLabel) : label ∈ listLabels := by
  cases label <;> decide

theorem listProblem_eq_none_iff (row : VisibilityRow) (r : ProbeResult) (label : ListLabel) :
    listProblem row r label = none ↔
      ∀ authored, row.authored label = some authored → authored.toFinset = resultList r label := by
  unfold listProblem
  cases row.authored label with
  | none => simp
  | some authored => simp

/-- A row has no problems exactly when there is a result with its key and the row is
checked. -/
theorem rowProblems_eq_nil_iff (byKey : Dict (String × String) ProbeResult)
    (row : VisibilityRow) :
    rowProblems byKey row = [] ↔ ∃ r, byKey.get? row.key = some r ∧ RowChecked row r := by
  unfold rowProblems
  cases byKey.get? row.key with
  | none => simp
  | some r =>
      simp only [List.append_eq_nil_iff, List.filterMap_eq_nil_iff, listProblem_eq_none_iff,
        Option.some.injEq, exists_eq_left']
      constructor
      · intro hproblems
        rcases hproblems with ⟨hlists, houtcome⟩
        refine ⟨fun label => hlists label (mem_listLabels label), fun outcome hstated => ?_⟩
        rw [hstated] at houtcome
        simpa using houtcome
      · intro hchecked
        rcases hchecked with ⟨hlists, houtcome⟩
        refine ⟨fun label _ => hlists label, ?_⟩
        cases hstated : stated row.outcome with
        | none => rfl
        | some outcome => simpa using houtcome outcome hstated

/-- Every result has a row exactly when none is reported as not expected. -/
theorem notExpectedProblems_eq_nil_iff (report : VerificationReport)
    (rows : List VisibilityRow) :
    notExpectedProblems (resultsByKey report) rows = [] ↔
      ∀ r ∈ report.probes, keyOf r ∈ rows.map VisibilityRow.key := by
  unfold notExpectedProblems resultsByKey
  rw [List.map_eq_nil_iff, Dict.keysExcept_eq_nil_iff]
  simp only [Dict.mem_keys_ofValues, List.mem_map]
  constructor
  · intro hall r hr
    exact hall (keyOf r) ⟨r, hr, rfl⟩
  · intro hall _ hkey
    rcases hkey with ⟨r, hr, rfl⟩
    exact hall r hr

/-- The second file has no problems exactly when every row is checked, every result has a row
and the skipped probes are those the file states. -/
theorem visibilityProblems_eq_nil_iff (report : VerificationReport)
    (document : ExpectedVisibility) :
    visibilityProblems report document = [] ↔
      (∀ row ∈ document.visibility, ∃ r, (resultsByKey report).get? row.key = some r ∧
        RowChecked row r) ∧
      (∀ r ∈ report.probes, keyOf r ∈ document.visibility.map VisibilityRow.key) ∧
      skippedProblems report document = [] := by
  simp only [visibilityProblems, List.append_eq_nil_iff, List.flatMap_eq_nil_iff,
    rowProblems_eq_nil_iff, notExpectedProblems_eq_nil_iff, and_assoc]

/-- A result is no false positive exactly when it is expected to be defective or nothing is
over or under retrieved. -/
theorem probeFalsePositives_eq_nil_iff (defects : Finset (String × String))
    (probe : ProbeResult) :
    probeFalsePositives defects probe = [] ↔
      keyOf probe ∉ defects → probe.overRetrieved = ∅ ∧ probe.underRetrieved = ∅ := by
  unfold probeFalsePositives
  by_cases hdefect : keyOf probe ∈ defects
  · simp [hdefect]
  · simp [hdefect]

/-! ## Conformance -/

theorem mem_of_get?_resultsByKey {report : VerificationReport} {key : String × String}
    {r : ProbeResult} (hfound : (resultsByKey report).get? key = some r) :
    r ∈ report.probes ∧ keyOf r = key := by
  rw [resultsByKey, Dict.get?_ofValues] at hfound
  have hmem := List.mem_of_find?_eq_some hfound
  have hkey := List.find?_some hfound
  exact ⟨List.mem_reverse.mp hmem, of_decide_eq_true hkey⟩

/-- There is a result with the key of a row, and its lists are the row's, one the row leaves out
being read as empty. -/
def Conforms (report : VerificationReport) (row : VisibilityRow) : Prop :=
  ∃ r, (resultsByKey report).get? row.key = some r ∧
    ∀ label, label ≠ .visible → resultList r label = row.listed label

/-- What settles a list that a row leaves out: a row with the same key that says it is empty or,
for what is over or under retrieved, the negative set. -/
def SettledBy (document : ExpectedVisibility) (key : String × String) (label : ListLabel) : Prop :=
  (∃ row ∈ document.visibility, row.key = key ∧ row.authored label = some []) ∨
    ((label = .overRetrieved ∨ label = .underRetrieved) ∧ key ∉ expectedDefects document)

/-- Every list that a row leaves out is settled in another way. -/
def Settled (document : ExpectedVisibility) : Prop :=
  ∀ row ∈ document.visibility, ∀ label, label ≠ .visible → row.authored label = none →
    SettledBy document row.key label

/-- Nothing is over or under retrieved where the negative set says so. -/
theorem resultList_eq_empty_of_negative {report : VerificationReport} {truth : TruthSet}
    {findings : Dict String PropagationFinding}
    (hnone : falsePositiveSubjects report findings truth = []) {r : ProbeResult}
    (hr : r ∈ report.probes) (hnegative : keyOf r ∉ expectedDefects truth.visibility)
    {label : ListLabel} (hlabel : label = .overRetrieved ∨ label = .underRetrieved) :
    resultList r label = ∅ := by
  simp only [falsePositiveSubjects, List.append_eq_nil_iff, List.flatMap_eq_nil_iff] at hnone
  have hempty := (probeFalsePositives_eq_nil_iff _ r).mp (hnone.1.2 r hr) hnegative
  rcases hlabel with rfl | rfl
  · exact hempty.1
  · exact hempty.2

/-- A list that a passing report has under a key is empty when something settles it. -/
theorem resultList_eq_empty_of_settledBy {report : VerificationReport} {truth : TruthSet}
    {scenario variant : String} (hpassed : (score report truth scenario variant).problems = [])
    {r : ProbeResult} {key : String × String}
    (hfound : (resultsByKey report).get? key = some r) {label : ListLabel}
    (hsettled : SettledBy truth.visibility key label) : resultList r label = ∅ := by
  rcases (score_problems_eq_nil_iff report truth scenario variant).mp hpassed with
    ⟨-, hvisibility, hnone, -⟩
  have hrows := ((visibilityProblems_eq_nil_iff report truth.visibility).mp hvisibility).1
  rcases hsettled with ⟨row, hrow, rfl, hauthored⟩ | ⟨hlabel, hnegative⟩
  · rcases hrows row hrow with ⟨r', hfound', hchecked⟩
    rw [hfound] at hfound'
    rw [Option.some.inj hfound']
    exact (hchecked.lists label [] hauthored).symm
  · rcases mem_of_get?_resultsByKey hfound with ⟨hr, rfl⟩
    exact resultList_eq_empty_of_negative hnone hr hnegative hlabel

/-- When every list left out is settled, a passing report conforms to every row. -/
theorem conforms_of_settled {report : VerificationReport} {truth : TruthSet}
    {scenario variant : String} (hsettled : Settled truth.visibility)
    (hpassed : (score report truth scenario variant).problems = []) {row : VisibilityRow}
    (hrow : row ∈ truth.visibility.visibility) : Conforms report row := by
  rcases (score_problems_eq_nil_iff report truth scenario variant).mp hpassed with
    ⟨-, hvisibility, -, -⟩
  rcases ((visibilityProblems_eq_nil_iff report truth.visibility).mp hvisibility).1 row hrow with
    ⟨r, hfound, hchecked⟩
  refine ⟨r, hfound, fun label hlabel => ?_⟩
  unfold VisibilityRow.listed
  cases hauthored : row.authored label with
  | none =>
      have hby := hsettled row hrow label hlabel hauthored
      rw [resultList_eq_empty_of_settledBy hpassed hfound hby]
      rfl
  | some authored => exact (hchecked.lists label authored hauthored).symm

/-! ## A list that is not read -/

/-- A result with another list under a label. -/
def withList (r : ProbeResult) (label : ListLabel) (xs : Finset String) : ProbeResult :=
  match label with
  | .visible => r
  | .overRetrieved => { r with overRetrieved := xs }
  | .underRetrieved => { r with underRetrieved := xs }
  | .undeterminedReturned => { r with undeterminedReturned := xs }
  | .absentFromIndex => { r with absentFromIndex := xs }

section WithList

variable (r : ProbeResult) (label : ListLabel) (xs : Finset String)

@[simp]
theorem keyOf_withList : keyOf (withList r label xs) = keyOf r := by
  cases label <;> rfl

@[simp]
theorem probeId_withList : (withList r label xs).probeId = r.probeId := by
  cases label <;> rfl

@[simp]
theorem outcome_withList : (withList r label xs).outcome = r.outcome := by
  cases label <;> rfl

@[simp]
theorem verdict_withList : (withList r label xs).verdict = r.verdict := by
  cases label <;> rfl

theorem resultList_withList_self (hlabel : label ≠ .visible) :
    resultList (withList r label xs) label = xs := by
  cases label with
  | visible => exact absurd rfl hlabel
  | overRetrieved | underRetrieved | undeterminedReturned | absentFromIndex => rfl

theorem resultList_withList_of_ne {other : ListLabel} (hother : other ≠ label) :
    resultList (withList r label xs) other = resultList r other := by
  cases label <;> cases other <;> first | rfl | exact absurd rfl hother

end WithList

/-- A result with another list under a label if it has the key. -/
def withListAt (key : String × String) (label : ListLabel) (xs : Finset String)
    (r : ProbeResult) : ProbeResult :=
  if keyOf r = key then withList r label xs else r

/-- A report in which the results with a key have another list under a label. -/
def reportWithList (report : VerificationReport) (key : String × String) (label : ListLabel)
    (xs : Finset String) : VerificationReport :=
  { report with probes := report.probes.map (withListAt key label xs) }

section ReportWithList

variable (report : VerificationReport) (key : String × String) (label : ListLabel)
variable (xs : Finset String)

@[simp]
theorem keyOf_withListAt (r : ProbeResult) : keyOf (withListAt key label xs r) = keyOf r := by
  unfold withListAt
  split_ifs <;> simp

theorem get?_reportWithList (k : String × String) :
    (resultsByKey (reportWithList report key label xs)).get? k =
      ((resultsByKey report).get? k).map (withListAt key label xs) := by
  simp only [resultsByKey, reportWithList, Dict.get?_ofValues, ← List.map_reverse,
    List.find?_map, Function.comp_def, keyOf_withListAt]

theorem flaggedProbes_reportWithList :
    flaggedProbes (reportWithList report key label xs) = flaggedProbes report := by
  have hverdict : ∀ r, (withListAt key label xs r).verdict = r.verdict := by
    intro r
    unfold withListAt
    split_ifs <;> simp
  have hprobeId : ∀ r, (withListAt key label xs r).probeId = r.probeId := by
    intro r
    unfold withListAt
    split_ifs <;> simp
  simp only [flaggedProbes, reportWithList, List.filter_map, List.map_map, Function.comp_def,
    hverdict, hprobeId]

end ReportWithList

/-- A row that does not carry the label is checked against the other list just the same. -/
theorem RowChecked.withListAt {row : VisibilityRow} {r : ProbeResult}
    (hchecked : RowChecked row r) {key : String × String} {label : ListLabel}
    (xs : Finset String) (hunread : keyOf r = key → row.authored label = none) :
    RowChecked row (withListAt key label xs r) := by
  unfold Evaluate.withListAt
  split_ifs with hkey
  · refine ⟨fun other authored hauthored => ?_, fun outcome hstated => ?_⟩
    · have hother : other ≠ label := by
        rintro rfl
        rw [hunread hkey] at hauthored
        cases hauthored
      rw [resultList_withList_of_ne r label xs hother]
      exact hchecked.lists other authored hauthored
    · rw [outcome_withList]
      exact hchecked.outcome outcome hstated
  · exact hchecked

theorem probeFalsePositives_withListAt {defects : Finset (String × String)} {r : ProbeResult}
    (hnone : probeFalsePositives defects r = []) {key : String × String} {label : ListLabel}
    (xs : Finset String)
    (hdefect : label = .overRetrieved ∨ label = .underRetrieved → key ∈ defects) :
    probeFalsePositives defects (withListAt key label xs r) = [] := by
  rw [probeFalsePositives_eq_nil_iff] at hnone ⊢
  intro hnegative
  rw [keyOf_withListAt] at hnegative
  have hempty := hnone hnegative
  unfold withListAt
  split_ifs with hkey
  · have hlabel : ¬(label = .overRetrieved ∨ label = .underRetrieved) := by
      intro h
      exact hnegative (hkey ▸ hdefect h)
    rw [not_or] at hlabel
    constructor
    · exact (resultList_withList_of_ne r label xs (Ne.symm hlabel.1)).trans hempty.1
    · exact (resultList_withList_of_ne r label xs (Ne.symm hlabel.2)).trans hempty.2
  · exact hempty

/-- A score reads no list that no row carries, unless the negative set is about it. -/
theorem passes_reportWithList {report : VerificationReport} {truth : TruthSet}
    {scenario variant : String} (hpassed : (score report truth scenario variant).problems = [])
    {key : String × String} {label : ListLabel} (xs : Finset String)
    (hunread : ∀ row ∈ truth.visibility.visibility, row.key = key → row.authored label = none)
    (hdefect : label = .overRetrieved ∨ label = .underRetrieved →
      key ∈ expectedDefects truth.visibility) :
    (score (reportWithList report key label xs) truth scenario variant).problems = [] := by
  rw [score_problems_eq_nil_iff] at hpassed ⊢
  rcases hpassed with ⟨hpropagation, hvisibility, hnone, hsubjects⟩
  refine ⟨hpropagation, ?_, ?_, hsubjects⟩
  · rw [visibilityProblems_eq_nil_iff] at hvisibility ⊢
    rcases hvisibility with ⟨hrows, hexpected, hskipped⟩
    refine ⟨fun row hrow => ?_, ?_, hskipped⟩
    · rcases hrows row hrow with ⟨r, hfound, hchecked⟩
      have hkey := (mem_of_get?_resultsByKey hfound).2
      refine ⟨withListAt key label xs r, ?_, hchecked.withListAt xs fun h => ?_⟩
      · rw [get?_reportWithList, hfound]
        rfl
      · exact hunread row hrow (hkey.symm.trans h)
    · intro changed hchanged
      rcases List.mem_map.mp hchanged with ⟨r, hr, rfl⟩
      rw [keyOf_withListAt]
      exact hexpected r hr
  · simp only [falsePositiveSubjects, flaggedProbes_reportWithList, List.append_eq_nil_iff,
      List.flatMap_eq_nil_iff] at hnone ⊢
    refine ⟨⟨hnone.1.1, fun changed hchanged => ?_⟩, hnone.2⟩
    rcases List.mem_map.mp hchanged with ⟨r, hr, rfl⟩
    exact probeFalsePositives_withListAt (hnone.1.2 r hr) xs hdefect

/-- Rows with one key to which a report conforms list the same. -/
theorem Conforms.listed_eq {report : VerificationReport} {row row' : VisibilityRow}
    (hconforms : Conforms report row) (hconforms' : Conforms report row')
    (hkey : row'.key = row.key) {label : ListLabel} (hlabel : label ≠ .visible) :
    row'.listed label = row.listed label := by
  rcases hconforms with ⟨r, hfound, hlists⟩
  rcases hconforms' with ⟨r', hfound', hlists'⟩
  rw [hkey, hfound] at hfound'
  cases hfound'
  exact (hlists' label hlabel).symm.trans (hlists label hlabel)

/-- A report does not conform to a row that leaves out a list which the report fills. -/
theorem not_conforms_reportWithList (report : VerificationReport) {row : VisibilityRow}
    {label : ListLabel} (hlabel : label ≠ .visible) (hauthored : row.authored label = none)
    {xs : Finset String} (hxs : xs ≠ ∅) :
    ¬ Conforms (reportWithList report row.key label xs) row := by
  intro hconforms
  rcases hconforms with ⟨r, hfound, hlists⟩
  have hlist := hlists label hlabel
  rw [get?_reportWithList] at hfound
  rcases Option.map_eq_some_iff.mp hfound with ⟨old, hold, rfl⟩
  rw [withListAt, if_pos (mem_of_get?_resultsByKey hold).2,
    resultList_withList_self old label xs hlabel, VisibilityRow.listed, hauthored] at hlist
  exact hxs hlist

/-- When every passing report conforms to every row, every list left out is settled. -/
theorem settled_of_conforms {truth : TruthSet} {scenario variant : String}
    (hpassing : ∃ report, (score report truth scenario variant).problems = [])
    (hconforms : ∀ report, (score report truth scenario variant).problems = [] →
      ∀ row ∈ truth.visibility.visibility, Conforms report row) :
    Settled truth.visibility := by
  rcases hpassing with ⟨report, hpassed⟩
  intro row hrow label hlabel hauthored
  by_contra hunsettled
  rw [SettledBy, not_or, not_and, not_not] at hunsettled
  rcases hunsettled with ⟨hnoRow, hdefect⟩
  by_cases hunread : ∀ row' ∈ truth.visibility.visibility, row'.key = row.key →
      row'.authored label = none
  · have hchanged := passes_reportWithList hpassed {"c"} hunread hdefect
    exact not_conforms_reportWithList report hlabel hauthored (Finset.singleton_ne_empty "c")
      (hconforms _ hchanged row hrow)
  · push Not at hunread
    rcases hunread with ⟨row', hrow', hkey, hcarries⟩
    rcases Option.ne_none_iff_exists'.mp hcarries with ⟨authored, hauthored'⟩
    have hlisted := (hconforms report hpassed row hrow).listed_eq
      (hconforms report hpassed row' hrow') hkey hlabel
    rw [VisibilityRow.listed, VisibilityRow.listed, hauthored, hauthored'] at hlisted
    have hnil : authored = [] := (List.toFinset_eq_empty_iff authored).mp hlisted
    exact hnoRow ⟨row', hrow', hkey, hnil ▸ hauthored'⟩

/-- A passing score means that every row was checked in full exactly when every list that a row
leaves out is settled by another row or by the negative set. -/
theorem passing_conforms_iff (truth : TruthSet) (scenario variant : String)
    (hpassing : ∃ report, (score report truth scenario variant).problems = []) :
    (∀ report, (score report truth scenario variant).problems = [] →
      ∀ row ∈ truth.visibility.visibility, Conforms report row) ↔ Settled truth.visibility := by
  constructor
  · exact settled_of_conforms hpassing
  · intro hsettled report hpassed row hrow
    exact conforms_of_settled hsettled hpassed hrow

/-! ## Rows that say nothing about absent chunks -/

/-- A row for each of two principals, without `absent_from_index`. -/
def travelTruth : TruthSet where
  visibility.visibility := [
    { probe := "pr-travel", principal := "p-ada", visible := some ["c-0001"],
      overRetrieved := some [], underRetrieved := some [], undeterminedReturned := some [],
      outcome := some "clean" },
    { probe := "pr-travel", principal := "p-ben", visible := some ["c-0001"],
      overRetrieved := some [], underRetrieved := some [], undeterminedReturned := some [],
      outcome := some "clean" }]

/-- The result of one principal when the index lacks a chunk that the probe lists. -/
def travelResult (pid : String) : ProbeResult where
  probeId := "pr-travel"
  principalId := pid
  returned := ["c-0001"]
  overRetrieved := ∅
  underRetrieved := ∅
  verdict := .verified
  outcome := .clean
  absentFromIndex := {"c-0002"}

/-- A report in which a listed chunk is absent from the index. -/
def travelReport : VerificationReport where
  chunksExamined := 1
  chunksUntraceable := 0
  propagation := []
  probes := [travelResult "p-ada", travelResult "p-ben"]
  probesSkipped := []
  isPartial := false

theorem travelReport_problems :
    (score travelReport travelTruth "travel" "clean").problems = [] := by
  decide +kernel

/-- The first row is found with the result whose absent chunks it does not mention. -/
theorem travel_not_conforms :
    ¬ ∀ row ∈ travelTruth.visibility.visibility, Conforms travelReport row := by
  intro hconforms
  rcases hconforms _ List.mem_cons_self with ⟨r, hfound, hlists⟩
  have hresult : (resultsByKey travelReport).get? ("pr-travel", "p-ada") =
      some (travelResult "p-ada") := by decide +kernel
  have hr : r = travelResult "p-ada" := Option.some.inj (hfound.symm.trans hresult)
  subst hr
  have habsent := hlists .absentFromIndex (by decide)
  revert habsent
  decide

/-- A report passes although chunks that its rows do not mention are absent. -/
theorem travel_passes_unread :
    ¬ ∀ (truth : TruthSet) (scenario variant : String) (report : VerificationReport),
      (score report truth scenario variant).problems = [] →
        ∀ row ∈ truth.visibility.visibility, Conforms report row := by
  intro hall
  exact travel_not_conforms (hall travelTruth "travel" "clean" travelReport travelReport_problems)

/-- The equivalence at this truth set. -/
theorem passing_conforms_iff_travel :
    (∀ report, (score report travelTruth "travel" "clean").problems = [] →
      ∀ row ∈ travelTruth.visibility.visibility, Conforms report row) ↔
        Settled travelTruth.visibility :=
  passing_conforms_iff travelTruth "travel" "clean" ⟨travelReport, travelReport_problems⟩

end Evaluate

end Tearline
