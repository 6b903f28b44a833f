import Tearline.Evaluate.Score
import Tearline.Verify.Report

/-!
# The false-positive rate

A score counts the subjects that must not be flagged and lists those that were.  The count is
the difference of two sizes and the list is drawn from authored entries as well, so the two
are a rate only where the authored names are names of counted subjects.

Main results:

- Theorem {lit}`score_precision`: what a score counts and what it lists.
- Theorem {lit}`isRate_iff`: when the list is a part of what is counted.
-/

namespace Tearline

namespace Evaluate

/-! ## Negative subjects -/

/-- A subject that must not be flagged. -/
inductive Subject
  /-- A chunk without an expected finding. -/
  | chunk (id : String)
  /-- A result whose row is not expected to be defective. -/
  | row (probeId principalId : String)
deriving DecidableEq, Repr

/-- The text a subject is listed under. -/
def Subject.text : Subject → String
  | .chunk id => id
  | .row probeId principalId => probeId ++ "/" ++ principalId

/-- The examined chunks without an expected finding and the results whose rows are not
expected to be defective. -/
def negativeSubjects (variant : Variant) (report : VerificationReport) (truth : TruthSet) :
    List Subject :=
  ((variant.chunks.values.map Chunk.id).filter fun id =>
      decide (id ∉ expectedIds truth.propagation)).map .chunk ++
    (report.probes.filter fun r => decide (keyOf r ∉ expectedDefects truth.visibility)).map
      fun r => .row r.probeId r.principalId

/-- Some subject is listed under the text. -/
def Denotes (subjects : List Subject) (text : String) : Prop :=
  ∃ subject ∈ subjects, subject.text = text

/-- The subjects are counted, every false positive denotes one of them, different false
positives denote different ones, and so there are no more of them than there are subjects. -/
structure IsRate (subjects : List Subject) (result : Score) : Prop where
  counted : result.negativeSubjects = subjects.length
  denoted : ∃ subjectOf : String → Subject,
    (∀ text ∈ result.falsePositives, subjectOf text ∈ subjects ∧ (subjectOf text).text = text) ∧
      ∀ a ∈ result.falsePositives, ∀ b ∈ result.falsePositives,
        subjectOf a = subjectOf b → a = b
  bounded : result.falsePositives.length ≤ result.negativeSubjects

/-! ## Listing -/

theorem mem_sortedSet (xs : List String) (x : String) : x ∈ sortedSet xs ↔ x ∈ xs := by
  rw [sortedSet, List.mem_mergeSort, List.mem_dedup]

theorem nodup_sortedSet (xs : List String) : (sortedSet xs).Nodup :=
  (List.mergeSort_perm _ _).nodup_iff.mpr (List.nodup_dedup xs)

/-- Texts that each denote a subject can be assigned one each. -/
theorem exists_subjectOf {subjects : List Subject} {texts : List String}
    (h : ∀ text ∈ texts, Denotes subjects text) :
    ∃ subjectOf : String → Subject,
      (∀ text ∈ texts, subjectOf text ∈ subjects ∧ (subjectOf text).text = text) ∧
        ∀ a ∈ texts, ∀ b ∈ texts, subjectOf a = subjectOf b → a = b := by
  have hchoice : ∀ text, ∃ subject : Subject,
      text ∈ texts → subject ∈ subjects ∧ subject.text = text := by
    intro text
    by_cases htext : text ∈ texts
    · rcases h text htext with ⟨subject, hsubject, hname⟩
      exact ⟨subject, fun _ => ⟨hsubject, hname⟩⟩
    · exact ⟨.chunk text, fun hmem => absurd hmem htext⟩
  choose subjectOf hsubject using hchoice
  refine ⟨subjectOf, hsubject, ?_⟩
  intro a ha b hb hsame
  rw [← (hsubject a ha).2, hsame, (hsubject b hb).2]

/-- Distinct texts that each denote a subject are no more than the subjects. -/
theorem length_le_of_denotes {subjects : List Subject} {texts : List String}
    (hnodup : texts.Nodup) (h : ∀ text ∈ texts, Denotes subjects text) :
    texts.length ≤ subjects.length := by
  have hsub : texts ⊆ subjects.map Subject.text := by
    intro text htext
    rcases h text htext with ⟨subject, hsubject, rfl⟩
    exact List.mem_map_of_mem hsubject
  rw [← List.length_map Subject.text]
  exact (hnodup.subperm hsub).length_le

/-! ## Counting -/

/-- The sizes of two sets differ by what is in the first alone exactly when one of the sets is
within the other. -/
theorem card_sub_eq_card_sdiff_iff (examined expected : Finset String) :
    examined.card - expected.card = (examined \ expected).card ↔
      expected ⊆ examined ∨ examined ⊆ expected := by
  constructor
  · intro hcard
    rcases Nat.le_total examined.card expected.card with hle | hle
    · rw [Nat.sub_eq_zero_of_le hle, eq_comm, Finset.card_eq_zero,
        Finset.sdiff_eq_empty_iff_subset] at hcard
      exact Or.inr hcard
    · left
      have hparts := Finset.card_inter_add_card_sdiff examined expected
      have hinter : expected.card ≤ (expected ∩ examined).card := by
        rw [Finset.inter_comm]
        omega
      rw [← Finset.eq_of_subset_of_card_le Finset.inter_subset_left hinter]
      exact Finset.inter_subset_right
  · intro hwithin
    rcases hwithin with hsub | hsub
    · exact (Finset.card_sdiff_of_subset hsub).symm
    · rw [Finset.sdiff_eq_empty_iff_subset.mpr hsub, Finset.card_empty,
        Nat.sub_eq_zero_of_le (Finset.card_le_card hsub)]

/-- The subjects of a run, in number. -/
theorem length_negativeSubjects (variant : Variant) (report : VerificationReport)
    (truth : TruthSet) :
    (negativeSubjects variant report truth).length =
      ((variant.chunks.values.map Chunk.id).toFinset \ expectedIds truth.propagation).card +
        report.probes.countP fun r => decide (keyOf r ∉ expectedDefects truth.visibility) := by
  have hchunks : (variant.chunks.values.map Chunk.id).toFinset \ expectedIds truth.propagation =
      ((variant.chunks.values.map Chunk.id).filter fun id =>
        decide (id ∉ expectedIds truth.propagation)).toFinset := by
    ext id
    simp
  rw [negativeSubjects, List.length_append, List.length_map, List.length_map, hchunks,
    List.toFinset_card_of_nodup (variant.nodup_ids.filter _), List.countP_eq_length_filter]

/-! ## Listed subjects -/

/-- The chunk of a finding that is not expected is a subject. -/
theorem denotes_of_unexpected {scenario : Scenario} {variant : Variant}
    {report : VerificationReport} {truth : TruthSet} {untraceable : Nat}
    (hcheck : checkPropagation scenario variant = .ok (report.propagation, untraceable))
    {id : String} (hfinding : id ∈ report.propagation.map PropagationFinding.chunkId)
    (hunexpected : id ∉ expectedIds truth.propagation) :
    Denotes (negativeSubjects variant report truth) id := by
  rcases List.mem_map.mp hfinding with ⟨f, hf, rfl⟩
  rcases (mem_findings_iff hcheck f).mp hf with ⟨chunk, hchunk, hok⟩
  refine ⟨.chunk f.chunkId, List.mem_append_left _ (List.mem_map_of_mem ?_), rfl⟩
  rw [(checkChunk_observed hok).1] at hunexpected ⊢
  exact List.mem_filter.mpr ⟨List.mem_map_of_mem hchunk, decide_eq_true hunexpected⟩

/-- A result whose row is not expected to be defective is a subject. -/
theorem denotes_of_falsePositive {variant : Variant} {report : VerificationReport}
    {truth : TruthSet} {r : ProbeResult} (hr : r ∈ report.probes) {text : String}
    (htext : text ∈ probeFalsePositives (expectedDefects truth.visibility) r) :
    Denotes (negativeSubjects variant report truth) text := by
  rw [probeFalsePositives] at htext
  split at htext
  · cases htext
  · rename_i hclean
    split at htext
    · rw [List.mem_singleton] at htext
      subst htext
      refine ⟨.row r.probeId r.principalId, List.mem_append_right _ ?_, rfl⟩
      exact List.mem_map.mpr ⟨r, List.mem_filter.mpr ⟨hr, decide_eq_true hclean⟩, rfl⟩
    · cases htext

/-- Every chunk with a finding and every probe with a contradicted result that the author names
is named as a subject is. -/
def NamesSubjects (subjects : List Subject) (report : VerificationReport) (truth : TruthSet) :
    Prop :=
  ∀ row ∈ truth.clean.mustNotFlag, ∀ named, row.subject = some named →
    (∀ id, named.chunk = some id → (∃ f ∈ report.propagation, f.chunkId = id) →
      Denotes subjects id) ∧
    ∀ id, named.probe = some id →
      (∃ r ∈ report.probes, r.probeId = id ∧ r.verdict = .contradicted) → Denotes subjects id

theorem mem_flaggedProbes (report : VerificationReport) (id : String) :
    id ∈ flaggedProbes report ↔
      ∃ r ∈ report.probes, r.probeId = id ∧ r.verdict = .contradicted := by
  have hvalue : ∀ verdict : Verdict, verdict.value = "contradicted" ↔ verdict = .contradicted := by
    intro verdict
    cases verdict <;> decide
  simp only [flaggedProbes, List.mem_toFinset, List.mem_map, List.mem_filter, decide_eq_true_eq,
    hvalue]
  constructor
  · intro hflagged
    rcases hflagged with ⟨r, ⟨hr, hverdict⟩, hid⟩
    exact ⟨r, hr, hid, hverdict⟩
  · intro hflagged
    rcases hflagged with ⟨r, hr, hid, hverdict⟩
    exact ⟨r, ⟨hr, hverdict⟩, hid⟩

theorem isSome_finding_iff (findings : List PropagationFinding) (id : String) :
    ((Dict.ofValues PropagationFinding.chunkId findings).get? id).isSome = true ↔
      ∃ f ∈ findings, f.chunkId = id := by
  rw [Dict.get?, AList.lookup_isSome, AList.mem_keys, Dict.mem_keys_ofValues, List.mem_map]

/-- The author names subjects exactly when every false positive of an authored entry denotes
one. -/
theorem namesSubjects_iff (subjects : List Subject) (report : VerificationReport)
    (truth : TruthSet) :
    NamesSubjects subjects report truth ↔
      ∀ row ∈ truth.clean.mustNotFlag,
        ∀ text ∈ rowFalsePositives
            (Dict.ofValues PropagationFinding.chunkId report.propagation)
            (flaggedProbes report) row, Denotes subjects text := by
  apply forall₂_congr
  intro row _
  rw [rowFalsePositives]
  cases row.subject with
  | none => simp
  | some named =>
      simp only [Option.some.injEq, forall_eq', namedFalsePositives, List.mem_append,
        Option.mem_toList, Option.filter_eq_some_iff, decide_eq_true_eq, isSome_finding_iff,
        mem_flaggedProbes]
      constructor
      · intro hnamed text htext
        rcases htext with ⟨hchunk, hfinding⟩ | ⟨hprobe, hflagged⟩
        · exact hnamed.1 text hchunk hfinding
        · exact hnamed.2 text hprobe hflagged
      · intro hall
        exact ⟨fun id hchunk hfinding => hall id (.inl ⟨hchunk, hfinding⟩),
          fun id hprobe hflagged => hall id (.inr ⟨hprobe, hflagged⟩)⟩

/-! ## The rate -/

/-- A score is a rate exactly when it counts the subjects and every false positive denotes one. -/
private theorem isRate_iff_denoted {subjects : List Subject} {result : Score}
    (hnodup : result.falsePositives.Nodup) :
    IsRate subjects result ↔
      result.negativeSubjects = subjects.length ∧
        ∀ text ∈ result.falsePositives, Denotes subjects text := by
  constructor
  · intro hrate
    refine ⟨hrate.counted, ?_⟩
    rcases hrate.denoted with ⟨subjectOf, hsubject, -⟩
    intro text htext
    exact ⟨subjectOf text, hsubject text htext⟩
  · intro h
    rcases h with ⟨hcounted, hall⟩
    refine ⟨hcounted, exists_subjectOf hall, ?_⟩
    rw [hcounted]
    exact length_le_of_denotes hnodup hall

section Completed

variable {scenario : Scenario} {variant : Variant} {retrieve : Option Retrieve} {site : String}
  {report : VerificationReport}

/-- The subjects are counted exactly when one of the two sets of chunks is part of the other. -/
private theorem counted_iff (hverify : verify scenario variant retrieve site = .ok report)
    (truth : TruthSet) (slug name : String) :
    (score report truth slug name).negativeSubjects =
        (negativeSubjects variant report truth).length ↔
      expectedIds truth.propagation ⊆ (variant.chunks.values.map Chunk.id).toFinset ∨
        (variant.chunks.values.map Chunk.id).toFinset ⊆ expectedIds truth.propagation := by
  rcases (verify_eq_ok_iff _ _ _ _ _).mp hverify with ⟨-, -, hexamined, -, -⟩
  rcases Prod.mk.inj (score_precision report truth slug name) with ⟨-, hcounted⟩
  have hcard : report.chunksExamined = (variant.chunks.values.map Chunk.id).toFinset.card := by
    rw [hexamined, List.toFinset_card_of_nodup variant.nodup_ids, List.length_map]
  rw [hcounted, hcard, length_negativeSubjects, Nat.add_right_cancel_iff,
    card_sub_eq_card_sdiff_iff]

/-- The derived false positives denote subjects, so all do exactly when the authored ones do. -/
private theorem denoted_iff (hverify : verify scenario variant retrieve site = .ok report)
    (truth : TruthSet) (slug name : String) :
    (∀ text ∈ (score report truth slug name).falsePositives,
        Denotes (negativeSubjects variant report truth) text) ↔
      NamesSubjects (negativeSubjects variant report truth) report truth := by
  rcases (verify_eq_ok_iff _ _ _ _ _).mp hverify with ⟨hcheck, -, -, -, -⟩
  rcases Prod.mk.inj (score_precision report truth slug name) with ⟨hlisted, -⟩
  rw [namesSubjects_iff, hlisted]
  simp only [mem_sortedSet, falsePositiveSubjects, List.mem_append, List.mem_flatMap]
  constructor
  · intro hall row hrow text htext
    exact hall text (.inr ⟨row, hrow, htext⟩)
  · intro hnamed text htext
    rcases htext with (hfinding | ⟨r, hr, htext⟩) | ⟨row, hrow, htext⟩
    · rw [List.mem_filter, Dict.mem_keys_ofValues, decide_eq_true_eq] at hfinding
      exact denotes_of_unexpected hcheck hfinding.1 hfinding.2
    · exact denotes_of_falsePositive hr htext
    · exact hnamed row hrow text htext

end Completed

/-- The score of a report of {lit}`verify` is a rate exactly when the expected chunks are among
the examined ones or the other way round, and the author names subjects. -/
theorem isRate_iff {scenario : Scenario} {variant : Variant} {retrieve : Option Retrieve}
    {site : String} {report : VerificationReport}
    (hverify : verify scenario variant retrieve site = .ok report) (truth : TruthSet)
    (slug name : String) :
    IsRate (negativeSubjects variant report truth) (score report truth slug name) ↔
      (expectedIds truth.propagation ⊆ (variant.chunks.values.map Chunk.id).toFinset ∨
          (variant.chunks.values.map Chunk.id).toFinset ⊆ expectedIds truth.propagation) ∧
        NamesSubjects (negativeSubjects variant report truth) report truth := by
  rcases Prod.mk.inj (score_precision report truth slug name) with ⟨hlisted, -⟩
  have hnodup : (score report truth slug name).falsePositives.Nodup :=
    hlisted ▸ nodup_sortedSet _
  rw [isRate_iff_denoted hnodup, counted_iff hverify truth slug name,
    denoted_iff hverify truth slug name]

/-- A page and its chunk. -/
def rota : Scenario :=
  Scenario.ofLists "rota"
    [{ id := "d-rota", system := "wiki", entitlement := { state := .stated, roles := {"hr"} } }]
    [{ id := "p-hr", label := "HR", roles := {"hr"} }] []
    { system := "wiki", tenant := .ignored, role := .intersects, direct := .ignored,
      combine := .tenantAndRole }

/-- An index whose chunk has lost its page. -/
def rotaIndex : Variant :=
  Variant.ofChunks "live"
    [{ id := "c-rota", sourceDocumentIds := ["d-gone"],
       entitlement := { state := .stated, roles := {"hr"} } }] "rule" none

/-- Its report: one finding. -/
def rotaReport : VerificationReport where
  chunksExamined := 1
  chunksUntraceable := 1
  propagation :=
    [{ chunkId := "c-rota", verdict := .unverifiable, cause := .undetermined,
       observed := { state := .stated, roles := {"hr"} }, detail := untraceableDetail }]
  probes := []
  probesSkipped := []
  isPartial := false

/-- A truth set that expects a finding on a chunk that is not in the index. -/
def rotaTruth : TruthSet where
  propagation := { expectedFindings := [{ chunkId := "c-elsewhere" }] }
  visibility := { visibility := [] }

/-- One false positive of no subjects. -/
theorem rota_not_rate :
    verify rota rotaIndex none "simulated" = .ok rotaReport ∧
      ¬ IsRate (negativeSubjects rotaIndex rotaReport rotaTruth)
        (score rotaReport rotaTruth "rota" "live") := by
  refine ⟨by decide +kernel, ?_⟩
  intro hrate
  have hbounded := hrate.bounded
  revert hbounded
  decide +kernel

theorem isRate_iff_rota :
    IsRate (negativeSubjects rotaIndex rotaReport rotaTruth)
        (score rotaReport rotaTruth "rota" "live") ↔
      (expectedIds rotaTruth.propagation ⊆ (rotaIndex.chunks.values.map Chunk.id).toFinset ∨
          (rotaIndex.chunks.values.map Chunk.id).toFinset ⊆ expectedIds rotaTruth.propagation) ∧
        NamesSubjects (negativeSubjects rotaIndex rotaReport rotaTruth) rotaReport rotaTruth :=
  isRate_iff (by decide +kernel : verify rota rotaIndex none "simulated" = .ok rotaReport)
    rotaTruth "rota" "live"

end Evaluate

end Tearline
