import Tearline.Evaluate.Conformance
import Tearline.Evaluate.Reading

/-!
# Documents that never stop the scorer

Whether the scorer completes depends on the report as well as on the documents: a forbidden verdict
is read of a row only when its chunk has a finding, and a list only when its row was produced and
then sorted only when it differs.  An entry that is malformed can so go unnoticed until a report
reaches it.

Main definitions:

- Structure {lit}`Documents.CompleteFor`: what the scorer reads against a report can be read.
- Structure {lit}`Documents.Complete`: what it reads can be read, whatever it is compared with.

Main results:

- Theorem {lit}`Documents.score_completes_iff`: when the scorer completes on one report.
- Theorem {lit}`completes_on_every_report_iff`: when it completes on every report.
-/

namespace Tearline

namespace Evaluate

/-! ## What has to be there -/

/-- The row is a mapping with the keys. -/
def HasKeys (keys : List String) (row : Value) : Prop :=
  ∀ key ∈ keys, ∃ value, row.subscript key = .ok value

/-- What is authored of a list can be made a set and sorted. -/
def Sorts (authored : Value) : Prop :=
  ∃ items, (authored.orElse (.list [])).elements = .ok items ∧ Value.sortable items = true

/-- What is authored of a list can be made a set, and sorted where it is another one. -/
def Compares (authored : Value) (actual : Finset String) : Prop :=
  ∃ items, (authored.orElse (.list [])).elements = .ok items ∧
    (sameTexts items actual = true ∨ Value.sortable items = true)

/-- What the scorer reads of the documents against a report can be read. -/
structure Documents.CompleteFor (render : Value → String) (report : VerificationReport)
    (documents : Documents) : Prop where
  findings : EachRow documents.propagation "expected_findings" (HasKeys ["chunk_id"])
  verdicts : EachRow documents.propagation "forbidden_verdicts" fun row =>
    ∃ chunkId, textAt render row "chunk_id" = .ok chunkId ∧
      ((∃ f ∈ report.propagation, f.chunkId = chunkId) → HasKeys ["verdict"] row)
  causes : EachRow documents.propagation "forbidden_causes" fun row =>
    ∃ chunkId, textAt render row "chunk_id" = .ok chunkId ∧
      ((∃ f ∈ report.propagation, f.chunkId = chunkId) → HasKeys ["cause"] row)
  visibility : EachRow documents.visibility "visibility" fun row =>
    ∃ key, keyAt render row = .ok key ∧
      ∀ probe, (resultsByKey report).get? key = some probe →
        ∀ (label : ListLabel) (authored : Value),
          row.stated? label.rowKey = some authored → Compares authored (resultList probe label)
  skipped : ∀ authored, documents.visibility.get? (.str "probes_skipped") = some authored →
    Compares authored report.probesSkipped.toFinset
  conclude : ∃ n, proseAt documents.clean "must_not_conclude" = .ok n
  absent : ∃ n, proseAt documents.clean "properties_absent" = .ok n
  negative : EachRow documents.clean "must_not_flag" fun row => row.isDict = true
  unverifiable : EachRow documents.unverifiable "expected_unverifiable" fun row =>
    row.isDict = true

/-- What the scorer reads of the documents can be read, whatever it is compared with. -/
structure Documents.Complete (documents : Documents) : Prop where
  findings : EachRow documents.propagation "expected_findings" (HasKeys ["chunk_id"])
  verdicts : EachRow documents.propagation "forbidden_verdicts" (HasKeys ["chunk_id", "verdict"])
  causes : EachRow documents.propagation "forbidden_causes" (HasKeys ["chunk_id", "cause"])
  visibility : EachRow documents.visibility "visibility" fun row =>
    HasKeys ["probe", "principal"] row ∧
      ∀ (label : ListLabel) (authored : Value),
        row.stated? label.rowKey = some authored → Sorts authored
  skipped : ∀ authored,
    documents.visibility.get? (.str "probes_skipped") = some authored → Sorts authored
  conclude : ∃ n, proseAt documents.clean "must_not_conclude" = .ok n
  absent : ∃ n, proseAt documents.clean "properties_absent" = .ok n
  negative : EachRow documents.clean "must_not_flag" fun row => row.isDict = true
  unverifiable : EachRow documents.unverifiable "expected_unverifiable" fun row =>
    row.isDict = true

/-! ## Rows that can be read -/

section Rows

variable {render : Value → String} {row : Value}

theorem textAt_completes_iff (render : Value → String) (row : Value) (key : String) :
    (∃ text, textAt render row key = .ok text) ↔ ∃ value, row.subscript key = .ok value := by
  simp [textAt]

theorem keyAt_completes_iff :
    (∃ key, keyAt render row = .ok key) ↔ HasKeys ["probe", "principal"] row := by
  rw [HasKeys, List.forall_mem_cons, List.forall_mem_singleton,
    ← textAt_completes_iff render, ← textAt_completes_iff render]
  simp only [keyAt, Loop.bind_eq_ok, Loop.pure_eq_ok]
  constructor
  · intro hkey
    rcases hkey with ⟨key, probe, hprobe, principal, hprincipal, -⟩
    exact ⟨⟨probe, hprobe⟩, ⟨principal, hprincipal⟩⟩
  · intro hkeys
    rcases hkeys with ⟨⟨probe, hprobe⟩, ⟨principal, hprincipal⟩⟩
    exact ⟨_, probe, hprobe, principal, hprincipal, rfl⟩

/-- Comparing with what a mapping states does not fail. -/
theorem differing?_completes (hdict : ∃ entries, row = .dict entries) (key actual : String) :
    ∃ differing, differing? row key actual = .ok differing := by
  rcases hdict with ⟨entries, rfl⟩
  rw [differing?, Value.get_dict]
  dsimp only [bind, Except.bind]
  split
  · exact ⟨_, rfl⟩
  · exact ⟨_, rfl⟩

theorem findingRow_completes_iff (findings : Dict String PropagationFinding) :
    (∃ problems, findingRow render findings row = .ok problems) ↔ HasKeys ["chunk_id"] row := by
  rw [HasKeys, List.forall_mem_singleton, ← textAt_completes_iff render]
  constructor
  · intro hrow
    simp only [findingRow, Loop.bind_eq_ok] at hrow
    rcases hrow with ⟨problems, chunkId, hid, -⟩
    exact ⟨chunkId, hid⟩
  · intro hid
    rcases hid with ⟨chunkId, hid⟩
    simp only [findingRow, hid, bind, Except.bind]
    cases findings.get? chunkId with
    | none => exact ⟨_, rfl⟩
    | some finding =>
        rcases differing?_completes (dict_of_textAt hid) "verdict" finding.verdict.value with
          ⟨verdict, hverdict⟩
        rcases differing?_completes (dict_of_textAt hid) "cause" finding.cause.value with
          ⟨cause, hcause⟩
        simp only [hverdict, hcause]
        exact ⟨_, rfl⟩

/-- The forbidden value of a row is read only when its chunk has a finding. -/
theorem forbiddenRow_completes_iff (findings : Dict String PropagationFinding) (key : String)
    (actual : PropagationFinding → String) (problem : String → String → Problem) :
    (∃ problems, forbiddenRow render findings key actual problem row = .ok problems) ↔
      ∃ chunkId, textAt render row "chunk_id" = .ok chunkId ∧
        ((findings.get? chunkId).isSome = true → ∃ value, row.subscript key = .ok value) := by
  rw [forbiddenRow, Loop.bind_completes_iff]
  refine exists_congr fun chunkId => and_congr_right fun _ => ?_
  cases findings.get? chunkId with
  | none => simp
  | some finding =>
      simp only [Loop.bind_completes_iff, Option.isSome_some, forall_const]
      refine exists_congr fun value => and_iff_left ?_
      by_cases hsame : asStr value = some (actual finding)
      · exact ⟨_, if_pos hsame⟩
      · exact ⟨_, if_neg hsame⟩

theorem differingList?_completes_iff {authored : Value} {actual : Finset String} :
    (∃ differing, differingList? authored actual = .ok differing) ↔ Compares authored actual := by
  rw [differingList?, Loop.bind_completes_iff]
  refine exists_congr fun items => and_congr_right fun _ => ?_
  by_cases hsame : sameTexts items actual = true
  · exact iff_of_true ⟨none, if_pos hsame⟩ (Or.inl hsame)
  · by_cases hsorts : Value.sortable items = true
    · exact iff_of_true ⟨some items, by rw [if_neg hsame, if_pos hsorts]; rfl⟩ (Or.inr hsorts)
    · refine iff_of_false ?_ (fun h => h.elim hsame hsorts)
      rw [if_neg hsame, if_neg hsorts]
      intro hthrown
      rcases hthrown with ⟨differing, hthrown⟩
      cases hthrown

/-- A list compares with every other exactly when it compares with the empty one. -/
theorem sorts_iff_compares_empty {authored : Value} : Sorts authored ↔ Compares authored ∅ := by
  constructor
  · intro hsorts
    rcases hsorts with ⟨items, hitems, hsorts⟩
    exact ⟨items, hitems, Or.inr hsorts⟩
  · intro hcompares
    rcases hcompares with ⟨items, hitems, hsame | hsorts⟩
    · refine ⟨items, hitems, ?_⟩
      rw [sameTexts, decide_eq_true_iff, Option.map_eq_some_iff] at hsame
      rcases hsame with ⟨texts, htexts, hempty⟩
      rw [asStrs_eq_some_iff, (List.toFinset_eq_empty_iff texts).mp hempty] at htexts
      rw [htexts]
      rfl
    · exact ⟨items, hitems, hsorts⟩

theorem Sorts.compares {authored : Value} (h : Sorts authored) (actual : Finset String) :
    Compares authored actual := by
  rcases h with ⟨items, hitems, hsorts⟩
  exact ⟨items, hitems, Or.inr hsorts⟩

theorem listOf?_completes_iff {key : String × String} {probe : ProbeResult} {label : ListLabel} :
    (∃ problem, listOf? row key probe label = .ok problem) ↔
      ∀ authored, row.stated? label.rowKey = some authored →
        Compares authored (resultList probe label) := by
  unfold listOf?
  cases row.stated? label.rowKey with
  | none => simp
  | some authored => simp [← differingList?_completes_iff]

/-- The lists of a row are read only when the row was produced. -/
theorem visibilityRow_completes_iff (byKey : Dict (String × String) ProbeResult) :
    (∃ problems, visibilityRow render byKey row = .ok problems) ↔
      ∃ key, keyAt render row = .ok key ∧
        ∀ probe, byKey.get? key = some probe →
          ∀ (label : ListLabel) (authored : Value), row.stated? label.rowKey = some authored →
            Compares authored (resultList probe label) := by
  constructor
  · intro hrow
    simp only [visibilityRow, Loop.bind_eq_ok] at hrow
    rcases hrow with ⟨problems, key, hkey, hrest⟩
    refine ⟨key, hkey, ?_⟩
    intro probe hprobe label
    simp only [hprobe, Loop.bind_eq_ok, Loop.mapM_eq_ok_iff] at hrest
    rcases hrest with ⟨lists, hlists, -⟩
    rcases Loop.exists_right_of_mem hlists (mem_listLabels label) with ⟨problem, -, hproblem⟩
    exact listOf?_completes_iff.mp ⟨problem, hproblem⟩
  · intro hrow
    rcases hrow with ⟨key, hkey, hlists⟩
    simp only [visibilityRow, hkey, bind, Except.bind]
    cases hprobe : byKey.get? key with
    | none => exact ⟨_, rfl⟩
    | some probe =>
        have hall : ∀ label ∈ listLabels, ∃ problem, listOf? row key probe label = .ok problem :=
          fun label _ => listOf?_completes_iff.mpr (hlists probe hprobe label)
        rcases Loop.exists_forall₂ hall with ⟨found, hfound⟩
        rcases differing?_completes (dict_of_keyAt hkey) "outcome" probe.outcome.value with
          ⟨outcome, houtcome⟩
        simp only [Loop.mapM_eq_ok_iff.mpr hfound, houtcome]
        exact ⟨_, rfl⟩

theorem defectAt_completes (hkey : ∃ key, keyAt render row = .ok key) :
    ∃ defect, defectAt render row = .ok defect := by
  rcases hkey with ⟨key, hkey⟩
  rcases dict_of_keyAt hkey with ⟨entries, rfl⟩
  simp only [defectAt, Value.get_dict, hkey, bind, Except.bind]
  split
  · exact ⟨_, rfl⟩
  · exact ⟨_, rfl⟩

theorem negativeRow_completes_iff (findings : Dict String PropagationFinding)
    (flaggedProbes : Finset String) (result : DocumentScore) :
    (∃ next, negativeRow render findings flaggedProbes result row = .ok next) ↔
      row.isDict = true := by
  cases row with
  | scalar s => simp [negativeRow, Value.get, Value.getD, Value.isDict]
  | list items => simp [negativeRow, Value.get, Value.getD, Value.isDict]
  | dict entries =>
      refine iff_of_true ?_ rfl
      simp only [negativeRow, Value.get_dict, bind, Except.bind]
      cases Value.field entries "subject" with
      | dict inner => exact ⟨_, rfl⟩
      | _ =>
          by_cases hcovered : (Value.field entries "covered_by").truthy = true
          · exact ⟨_, if_pos hcovered⟩
          · exact ⟨_, if_neg hcovered⟩

theorem unverifiableRow_completes_iff (report : VerificationReport)
    (findings : Dict String PropagationFinding) :
    (∃ problems, unverifiableRow render report findings row = .ok problems) ↔
      row.isDict = true := by
  cases row with
  | scalar s => simp [unverifiableRow, Value.getD, Value.isDict]
  | list items => simp [unverifiableRow, Value.getD, Value.isDict]
  | dict entries => simp [unverifiableRow, Value.getD, Value.isDict]

end Rows

/-! ## Documents that can be read -/

section ByDocument

variable {render : Value → String} {report : VerificationReport}
  {findings : Dict String PropagationFinding} {found : DocumentScore}

/-- A loop over rows completes exactly when each row can be read. -/
theorem checkRows_completes_iff {f : Value → Except Value.Error (List DocumentProblem)}
    {rows : List Value} :
    (∃ next, checkRows f rows found = .ok next) ↔ ∀ row ∈ rows, ∃ problems, f row = .ok problems :=
  Loop.foldlM_map_completes_iff

theorem EachRow.imp {document : Mapping} {key : String} {condition other : Value → Prop}
    (h : EachRow document key condition) (himp : ∀ row, condition row → other row) :
    EachRow document key other := by
  rcases h with ⟨rows, hrows, hall⟩
  exact ⟨rows, hrows, fun row hrow => himp row (hall row hrow)⟩

theorem expectedIdsAt_completes (render : Value → String) {document : Mapping}
    (h : EachRow document "expected_findings" (HasKeys ["chunk_id"])) :
    ∃ ids, expectedIdsAt render document = .ok ids := by
  rcases h with ⟨rows, hrows, hall⟩
  have hids : ∃ ids, rows.mapM (fun row => textAt render row "chunk_id") = .ok ids := by
    refine Loop.mapM_completes_iff.mpr ?_
    intro row hrow
    exact (textAt_completes_iff render row "chunk_id").mpr (hall row hrow _ List.mem_cons_self)
  rcases hids with ⟨ids, hids⟩
  simp only [expectedIdsAt, Loop.bind_eq_ok, Loop.pure_eq_ok]
  exact ⟨_, rows, hrows, ids, hids, rfl⟩

/-- The first document can be read exactly when its rows can. -/
theorem scorePropagation_completes_iff {document : Mapping} :
    (∃ next, Documents.scorePropagation render report findings document found = .ok next) ↔
      EachRow document "expected_findings" (HasKeys ["chunk_id"]) ∧
      (EachRow document "forbidden_verdicts" fun row =>
        ∃ problems, forbiddenVerdictRow render findings row = .ok problems) ∧
      EachRow document "forbidden_causes" fun row =>
        ∃ problems, forbiddenCauseRow render findings row = .ok problems := by
  simp only [Documents.scorePropagation, Loop.bind_eq_ok]
  constructor
  · intro hscore
    rcases hscore with ⟨next, rows, hrows, first, hfirst, ids, hids, verdicts, hverdicts, second,
      hsecond, causes, hcauses, hlast⟩
    refine ⟨⟨rows, hrows, ?_⟩, ⟨verdicts, hverdicts, ?_⟩, ⟨causes, hcauses, ?_⟩⟩
    · intro row hrow
      exact (findingRow_completes_iff findings).mp
        (checkRows_completes_iff.mp ⟨first, hfirst⟩ row hrow)
    · exact checkRows_completes_iff.mp ⟨second, hsecond⟩
    · exact checkRows_completes_iff.mp ⟨next, hlast⟩
  · intro hscore
    rcases hscore with ⟨heach, ⟨verdicts, hverdicts, hallVerdicts⟩, ⟨causes, hcauses,
      hallCauses⟩⟩
    rcases expectedIdsAt_completes render heach with ⟨ids, hids⟩
    rcases heach with ⟨rows, hrows, hall⟩
    have hfindings : ∀ row ∈ rows, ∃ problems, findingRow render findings row = .ok problems :=
      fun row hrow => (findingRow_completes_iff findings).mpr (hall row hrow)
    rcases checkRows_completes_iff.mpr hfindings with ⟨first, hfirst⟩
    rcases checkRows_completes_iff.mpr hallVerdicts with ⟨second, hsecond⟩
    rcases checkRows_completes_iff.mpr hallCauses with ⟨third, hthird⟩
    exact ⟨third, rows, hrows, first, hfirst, ids, hids, verdicts, hverdicts, second, hsecond,
      causes, hcauses, hthird⟩

theorem skippedAt_completes_iff {document : Mapping} :
    (∃ next, skippedAt report document found = .ok next) ↔
      ∀ authored, document.get? (.str "probes_skipped") = some authored →
        Compares authored report.probesSkipped.toFinset := by
  unfold skippedAt
  cases document.get? (.str "probes_skipped") with
  | none => simp
  | some authored =>
      simp only [Loop.bind_completes_iff, Loop.pure_eq_ok, exists_eq', and_true,
        Option.some.injEq, forall_eq', differingList?_completes_iff]

/-- Rows that can be read against a report have keys. -/
theorem keys_of_visibilityRows {byKey : Dict (String × String) ProbeResult} {rows : List Value}
    (hall : ∀ row ∈ rows, ∃ problems, visibilityRow render byKey row = .ok problems) :
    ∀ row ∈ rows, ∃ key, keyAt render row = .ok key := by
  intro row hrow
  rcases (visibilityRow_completes_iff byKey).mp (hall row hrow) with ⟨key, hkey, -⟩
  exact ⟨key, hkey⟩

/-- The second document can be read exactly when its rows and its list of skipped probes can. -/
theorem scoreVisibility_completes_iff {document : Mapping} :
    (∃ next, Documents.scoreVisibility render report document found = .ok next) ↔
      (EachRow document "visibility" fun row =>
        ∃ problems, visibilityRow render (resultsByKey report) row = .ok problems) ∧
      ∀ authored, document.get? (.str "probes_skipped") = some authored →
        Compares authored report.probesSkipped.toFinset := by
  simp only [Documents.scoreVisibility, Loop.bind_eq_ok]
  constructor
  · intro hscore
    rcases hscore with ⟨next, rows, hrows, first, hfirst, keys, hkeys, hlast⟩
    exact ⟨⟨rows, hrows, checkRows_completes_iff.mp ⟨first, hfirst⟩⟩,
      skippedAt_completes_iff.mp ⟨next, hlast⟩⟩
  · intro hscore
    rcases hscore with ⟨⟨rows, hrows, hall⟩, hskipped⟩
    rcases checkRows_completes_iff.mpr hall with ⟨first, hfirst⟩
    rcases Loop.mapM_completes_iff.mpr (keys_of_visibilityRows hall) with ⟨keys, hkeys⟩
    rcases skippedAt_completes_iff.mpr hskipped with ⟨last, hlast⟩
    exact ⟨last, rows, hrows, first, hfirst, keys, hkeys, hlast⟩

/-- The rows of the negative set are read one after another, whatever has been counted. -/
theorem foldlM_negativeRow_completes_iff {flaggedProbes : Finset String} {rows : List Value} :
    (∃ next, rows.foldlM (negativeRow render findings flaggedProbes) found = .ok next) ↔
      ∀ row ∈ rows, row.isDict = true := by
  induction rows generalizing found with
  | nil => simp
  | cons row rows ih =>
      simp only [List.foldlM_cons, Loop.bind_eq_ok, List.forall_mem_cons]
      constructor
      · intro hrun
        rcases hrun with ⟨next, first, hfirst, hrest⟩
        exact ⟨(negativeRow_completes_iff findings flaggedProbes found).mp ⟨first, hfirst⟩,
          ih.mp ⟨next, hrest⟩⟩
      · intro hdicts
        rcases (negativeRow_completes_iff findings flaggedProbes found).mpr hdicts.1 with
          ⟨first, hfirst⟩
        rcases ih.mpr hdicts.2 with ⟨next, hrest⟩
        exact ⟨next, first, hfirst, hrest⟩

theorem scoreNegativeSet_completes_iff {document : Mapping} {expectedFindings : Finset String}
    {defects : Finset (String × String)} :
    (∃ next, Documents.scoreNegativeSet render found document findings report expectedFindings
        defects = .ok next) ↔
      EachRow document "must_not_flag" fun row => row.isDict = true := by
  rw [Documents.scoreNegativeSet, Loop.bind_completes_iff]
  refine exists_congr fun rows => and_congr_right fun _ => ?_
  simp only [Loop.bind_completes_iff, Loop.pure_eq_ok, exists_eq', and_true]
  exact foldlM_negativeRow_completes_iff

/-- The third document can be read exactly when its prose can be counted and its rows are mappings,
where the first two can be read. -/
theorem scoreClean_completes_iff {propagation visibility clean : Mapping}
    (hfindings : EachRow propagation "expected_findings" (HasKeys ["chunk_id"]))
    (hvisibility : EachRow visibility "visibility" fun row => ∃ key, keyAt render row = .ok key) :
    (∃ next, Documents.scoreClean render report findings propagation visibility clean found =
        .ok next) ↔
      (∃ n, proseAt clean "must_not_conclude" = .ok n) ∧
      (∃ n, proseAt clean "properties_absent" = .ok n) ∧
      EachRow clean "must_not_flag" fun row => row.isDict = true := by
  rcases expectedIdsAt_completes render hfindings with ⟨ids, hids⟩
  rcases hvisibility with ⟨rows, hrows, hall⟩
  rcases Loop.mapM_completes_iff.mpr fun row hrow => defectAt_completes (hall row hrow) with
    ⟨defects, hdefects⟩
  have hexpected : expectedDefectsAt render visibility = .ok defects.reduceOption.toFinset := by
    simp only [expectedDefectsAt, hrows, hdefects, bind, Except.bind]
    rfl
  simp only [Documents.scoreClean, Loop.bind_eq_ok]
  constructor
  · intro hscore
    rcases hscore with ⟨next, _, -, conclude, hconclude, absent, habsent, _, -, hlast⟩
    exact ⟨⟨conclude, hconclude⟩, ⟨absent, habsent⟩,
      scoreNegativeSet_completes_iff.mp ⟨next, hlast⟩⟩
  · intro hscore
    rcases hscore with ⟨⟨conclude, hconclude⟩, ⟨absent, habsent⟩, hrows⟩
    rcases scoreNegativeSet_completes_iff.mpr hrows with ⟨last, hlast⟩
    exact ⟨last, ids, hids, conclude, hconclude, absent, habsent, _, hexpected, hlast⟩

theorem scoreUnverifiable_completes_iff {document : Mapping} :
    (∃ next, Documents.scoreUnverifiable render report findings document found = .ok next) ↔
      EachRow document "expected_unverifiable" fun row => row.isDict = true := by
  rw [Documents.scoreUnverifiable, Loop.bind_completes_iff]
  refine exists_congr fun rows => and_congr_right fun _ => ?_
  rw [checkRows_completes_iff]
  exact forall₂_congr fun row _ => unverifiableRow_completes_iff report findings

end ByDocument

/-! ## One report -/

section OneReport

variable {render : Value → String} {documents : Documents} {report : VerificationReport}
  {scenario variant : String}

/-- A forbidden value is read of a row only when the report has a finding of its chunk. -/
theorem forbidden_completes_iff {key : String} {actual : PropagationFinding → String}
    {problem : String → String → Problem} {row : Value} :
    (∃ problems, forbiddenRow render
        (Dict.ofValues PropagationFinding.chunkId report.propagation) key actual problem row =
          .ok problems) ↔
      ∃ chunkId, textAt render row "chunk_id" = .ok chunkId ∧
        ((∃ f ∈ report.propagation, f.chunkId = chunkId) → HasKeys [key] row) := by
  rw [forbiddenRow_completes_iff]
  refine exists_congr fun chunkId => and_congr_right fun _ => ?_
  rw [Option.isSome_iff_exists, ← Dict.mem_keys_iff, Dict.mem_keys_ofValues, List.mem_map, HasKeys,
    List.forall_mem_singleton]

/-- The scorer completes on a report exactly when what it reads against it can be read. -/
theorem Documents.score_completes_iff :
    (∃ found, documents.score render report scenario variant = .ok found) ↔
      documents.CompleteFor render report := by
  simp only [Documents.score, Loop.bind_eq_ok]
  constructor
  · intro hscore
    rcases hscore with ⟨found, first, hfirst, second, hsecond, third, hthird, hlast⟩
    rcases scorePropagation_completes_iff.mp ⟨first, hfirst⟩ with ⟨hfindings, hverdicts, hcauses⟩
    rcases scoreVisibility_completes_iff.mp ⟨second, hsecond⟩ with ⟨hvisibility, hskipped⟩
    have hrows := hvisibility.imp fun _ => (visibilityRow_completes_iff _).mp
    rcases (scoreClean_completes_iff hfindings
      (hrows.imp fun _ hrow => hrow.imp fun _ hkey => hkey.1)).mp ⟨third, hthird⟩ with
      ⟨hconclude, habsent, hnegative⟩
    exact {
      findings := hfindings
      verdicts := hverdicts.imp fun _ => forbidden_completes_iff.mp
      causes := hcauses.imp fun _ => forbidden_completes_iff.mp
      visibility := hrows
      skipped := hskipped
      conclude := hconclude
      absent := habsent
      negative := hnegative
      unverifiable := scoreUnverifiable_completes_iff.mp ⟨found, hlast⟩ }
  · intro h
    rcases scorePropagation_completes_iff.mpr ⟨h.findings,
      h.verdicts.imp fun _ => forbidden_completes_iff.mpr,
      h.causes.imp fun _ => forbidden_completes_iff.mpr⟩ with ⟨first, hfirst⟩
    rcases scoreVisibility_completes_iff.mpr
      ⟨h.visibility.imp fun _ => (visibilityRow_completes_iff _).mpr, h.skipped⟩ with
      ⟨second, hsecond⟩
    rcases (scoreClean_completes_iff h.findings
      (h.visibility.imp fun _ hrow => hrow.imp fun _ hkey => hkey.1)).mpr
      ⟨h.conclude, h.absent, h.negative⟩ with ⟨third, hthird⟩
    rcases scoreUnverifiable_completes_iff.mpr h.unverifiable with ⟨last, hlast⟩
    exact ⟨last, first, hfirst, second, hsecond, third, hthird, hlast⟩

end OneReport

/-! ## Every report -/

/-- A finding of a chunk. -/
def bareFinding (chunkId : String) : PropagationFinding where
  chunkId := chunkId
  verdict := .contradicted
  cause := .undetermined
  observed := { state := .unknown }

/-- A result in which nothing was returned. -/
def emptyResult (key : String × String) : ProbeResult where
  probeId := key.1
  principalId := key.2
  returned := []
  overRetrieved := ∅
  underRetrieved := ∅
  verdict := .verified
  outcome := .clean

/-- A report with a finding of each of some chunks and an empty result under each of some keys. -/
def bareReport (chunkIds : List String) (keys : List (String × String)) : VerificationReport where
  chunksExamined := chunkIds.length
  chunksUntraceable := 0
  propagation := chunkIds.map bareFinding
  probes := keys.map emptyResult
  probesSkipped := []
  isPartial := false

section EveryReport

variable {render : Value → String} {documents : Documents}

/-- A forbidden value that is there can be read whether or not its chunk has a finding. -/
theorem HasKeys.reported {row : Value} {key : String} (h : HasKeys ["chunk_id", key] row)
    (reported : String → Prop) :
    ∃ chunkId, textAt render row "chunk_id" = .ok chunkId ∧
      (reported chunkId → HasKeys [key] row) := by
  rw [HasKeys, List.forall_mem_cons] at h
  rcases (textAt_completes_iff render row "chunk_id").mpr h.1 with ⟨chunkId, hid⟩
  exact ⟨chunkId, hid, fun _ => h.2⟩

/-- Documents that are complete whatever they are compared with are so for each report. -/
theorem Documents.Complete.completeFor (h : documents.Complete) (report : VerificationReport) :
    documents.CompleteFor render report where
  findings := h.findings
  verdicts := h.verdicts.imp fun _ hkeys => hkeys.reported _
  causes := h.causes.imp fun _ hkeys => hkeys.reported _
  visibility := h.visibility.imp fun row hrow => by
    rcases keyAt_completes_iff.mpr hrow.1 with ⟨key, hkey⟩
    exact ⟨key, hkey, fun probe _ label authored hauthored =>
      (hrow.2 label authored hauthored).compares _⟩
  skipped := fun authored hauthored => (h.skipped authored hauthored).compares _
  conclude := h.conclude
  absent := h.absent
  negative := h.negative
  unverifiable := h.unverifiable

/-- A forbidden value that can be read when its chunk has a finding is there. -/
theorem hasKeys_of_reported {row : Value} {key : String}
    (hrow : ∀ chunkIds, ∃ chunkId, textAt render row "chunk_id" = .ok chunkId ∧
      ((∃ f ∈ (bareReport chunkIds []).propagation, f.chunkId = chunkId) → HasKeys [key] row)) :
    HasKeys ["chunk_id", key] row := by
  rcases hrow [] with ⟨chunkId, hid, -⟩
  rcases hrow [chunkId] with ⟨chunkId', hid', hkeys⟩
  rw [hid, Except.ok.injEq] at hid'
  subst hid'
  rw [HasKeys, List.forall_mem_cons]
  exact ⟨(textAt_completes_iff render row "chunk_id").mp ⟨chunkId, hid⟩,
    hkeys ⟨_, List.mem_singleton_self _, rfl⟩⟩

/-- So is every list of a row that was produced with nothing in it. -/
theorem sorts_of_produced {row : Value}
    (hrow : ∀ keys, ∃ key, keyAt render row = .ok key ∧
      ∀ probe, (resultsByKey (bareReport [] keys)).get? key = some probe →
        ∀ (label : ListLabel) (authored : Value), row.stated? label.rowKey = some authored →
          Compares authored (resultList probe label)) :
    HasKeys ["probe", "principal"] row ∧
      ∀ (label : ListLabel) (authored : Value),
        row.stated? label.rowKey = some authored → Sorts authored := by
  rcases hrow [] with ⟨key, hkey, -⟩
  refine ⟨keyAt_completes_iff.mp ⟨key, hkey⟩, ?_⟩
  intro label authored hauthored
  rcases hrow [key] with ⟨key', hkey', hlists⟩
  rw [hkey, Except.ok.injEq] at hkey'
  subst hkey'
  -- an empty result differs from every list that has an item, so the scorer sorts the list
  have hproduced : (resultsByKey (bareReport [] [key])).get? key = some (emptyResult key) := by
    rw [resultsByKey, Dict.get?_ofValues]
    simp [bareReport, emptyResult, keyOf]
  have hcompares := hlists (emptyResult key) hproduced label authored hauthored
  rw [sorts_iff_compares_empty]
  cases label <;> exact hcompares

/-- What holds of each row for every index holds of it for all of them. -/
theorem eachRow_forall {ι : Type} [Inhabited ι] {document : Mapping} {key : String}
    {condition : ι → Value → Prop} (h : ∀ i, EachRow document key (condition i)) :
    EachRow document key fun row => ∀ i, condition i row := by
  rcases h default with ⟨rows, hrows, -⟩
  refine ⟨rows, hrows, ?_⟩
  intro row hrow i
  rcases h i with ⟨rows', hrows', hall⟩
  rw [hrows, Except.ok.injEq] at hrows'
  exact hall row (hrows' ▸ hrow)

/-- The scorer completes on every report exactly when what it reads of the documents can be read,
whatever it is compared with. -/
theorem Documents.complete_iff (render : Value → String) (scenario variant : String) :
    (∀ report, ∃ found, documents.score render report scenario variant = .ok found) ↔
      documents.Complete := by
  simp only [Documents.score_completes_iff]
  constructor
  · intro h
    have hbare := h (bareReport [] [])
    exact {
      findings := hbare.findings
      verdicts := (eachRow_forall fun chunkIds => (h (bareReport chunkIds [])).verdicts).imp
        fun _ => hasKeys_of_reported
      causes := (eachRow_forall fun chunkIds => (h (bareReport chunkIds [])).causes).imp
        fun _ => hasKeys_of_reported
      visibility := (eachRow_forall fun keys => (h (bareReport [] keys)).visibility).imp
        fun _ => sorts_of_produced
      skipped := fun authored hauthored =>
        sorts_iff_compares_empty.mpr (hbare.skipped authored hauthored)
      conclude := hbare.conclude
      absent := hbare.absent
      negative := hbare.negative
      unverifiable := hbare.unverifiable }
  · intro h report
    exact h.completeFor report

end EveryReport

/-! ## The files -/

section Loading

variable {Path : Type} {files : Files Path} {depth : ℕ} {expectedDir : String → Path}

/-- The documents that a directory loads are determined by it. -/
theorem Files.Loads.unique {documents others : Documents}
    (h : files.Loads depth expectedDir documents) (hothers : files.Loads depth expectedDir others) :
    documents = others := by
  cases documents
  cases others
  rw [Documents.mk.injEq]
  exact ⟨Except.ok.inj (h.propagation.symm.trans hothers.propagation),
    Except.ok.inj (h.visibility.symm.trans hothers.visibility),
    Except.ok.inj (h.clean.symm.trans hothers.clean),
    Except.ok.inj (h.unverifiable.symm.trans hothers.unverifiable)⟩

/-- The scorer completes on every report exactly when the four files load and what it reads of them
can be read, whatever it is compared with. -/
theorem completes_on_every_report_iff {scenario variant : String} :
    (∀ report, ∃ found, files.score depth expectedDir report scenario variant = .ok found) ↔
      ∃ documents, files.Loads depth expectedDir documents ∧ documents.Complete := by
  simp only [Files.score_eq_ok_iff]
  constructor
  · intro h
    rcases h (bareReport [] []) with ⟨-, documents, hloads, -⟩
    refine ⟨documents, hloads, ?_⟩
    refine (Documents.complete_iff files.render scenario variant).mp ?_
    intro report
    rcases h report with ⟨found, others, hothers, hfound⟩
    exact ⟨found, hothers.unique hloads ▸ hfound⟩
  · intro h report
    rcases h with ⟨documents, hloads, hcomplete⟩
    rcases (Documents.complete_iff files.render scenario variant).mpr hcomplete report with
      ⟨found, hfound⟩
    exact ⟨found, documents, hloads, hfound⟩

end Loading

end Evaluate

end Tearline
