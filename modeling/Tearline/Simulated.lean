import Tearline.Differential

/-!
# The simulated store

Without a live store the verifier simulates one: it takes the candidates up to the variant's
limit and serves those the enforcement model admits.  Raising the limit or weakening the
enforcement serves more.

Main results:

- Theorem {lit}`admitsMore_answerTo`: serving more returns more.
- Theorem {lit}`limitHonoured_iff`: when a limit is honoured.
- Theorem {lit}`naive_admits_more`: what the naive filter changes.
-/

namespace Tearline

/-! ## Serving more -/

/-- A result that returns everything another does, over retrieves all it does and under
retrieves nothing it does not. -/
structure AdmitsMore (r r' : ProbeResult) : Prop where
  returned : r.returned ⊆ r'.returned
  overRetrieved : r.overRetrieved ⊆ r'.overRetrieved
  underRetrieved : r'.underRetrieved ⊆ r.underRetrieved

/-- The variant under another candidate limit. -/
def Variant.withLimit (variant : Variant) (annLimit : Option Int) : Variant :=
  { variant with annLimit := annLimit }

/-- The variant under another enforcement model. -/
def Variant.enforcedBy (variant : Variant) (model : String) : Variant :=
  { variant with enforcement := model }

/-- What the sources say depends on the chunks of the index alone. -/
theorem judge_congr (scenario : Scenario) {variant variant' : Variant}
    (hchunks : variant.chunks = variant'.chunks) (principal : Principal) :
    judge scenario variant principal = judge scenario variant' principal := by
  funext cid
  simp only [judge, hchunks]

/-- Over the same chunks, serving more gives a result that admits more. -/
theorem admitsMore_answerTo {scenario : Scenario} {variant variant' : Variant}
    {enforce enforce' : Enforcement} {retrieve : Option Retrieve} {q : Question}
    (hchunks : variant.chunks = variant'.chunks)
    (hserved : (comparison scenario variant enforce retrieve q).served ⊆
      (comparison scenario variant' enforce' retrieve q).served) :
    AdmitsMore (answerTo scenario variant enforce retrieve q)
      (answerTo scenario variant' enforce' retrieve q) := by
  have hjudge : (comparison scenario variant enforce retrieve q).judge =
      (comparison scenario variant' enforce' retrieve q).judge :=
    judge_congr scenario hchunks q.principal
  refine ⟨fun cid hcid => ?_, fun cid hcid => ?_, fun cid hcid => ?_⟩
  · rw [mem_returned_iff] at hcid ⊢
    refine ⟨hserved hcid.1, ?_⟩
    rw [← judge_congr scenario hchunks, Held, ← hchunks]
    exact hcid.2
  · rw [mem_overRetrieved_iff] at hcid ⊢
    exact Audit.Comparison.overServed_mono hjudge hserved hcid
  · rw [mem_underRetrieved_iff] at hcid ⊢
    exact Audit.Comparison.underServed_anti hjudge rfl hserved hcid

/-! ## The candidate limit -/

/-- A positive limit takes that many ids from the front. -/
theorem candidates_of_pos (probe : Probe) {k : Nat} (hk : 0 < k) :
    candidates probe (some (k : Int)) = probe.matchIds.take k := by
  simp [candidates, sliceTo, hk.ne']

/-- A limit that is no lower. -/
def AtLeast (k : Nat) (limit : Option Int) : Prop :=
  limit = none ∨ ∃ k' : Nat, k ≤ k' ∧ limit = some (k' : Int)

/-- Raising a positive limit loses no candidate. -/
theorem candidates_subset_of_atLeast (probe : Probe) {k : Nat} (hk : 0 < k)
    {limit : Option Int} (hlimit : AtLeast k limit) :
    candidates probe (some (k : Int)) ⊆ candidates probe limit := by
  rw [candidates_of_pos probe hk]
  rcases hlimit with rfl | ⟨k', hle, rfl⟩
  · exact List.take_subset _ _
  · rw [candidates_of_pos probe (hk.trans_le hle)]
    exact List.take_subset_take_left _ hle

/-- Results under a limit return only ids among the first {lit}`k` a probe lists, and a higher
limit, or none, gives results that admit more. -/
structure LimitHonoured (scenario : Scenario) (variant : Variant) (k : Nat)
    (results : List ProbeResult) (skipped : List String) : Prop where
  within : List.Forall₂ (fun q r => ∀ cid ∈ r.returned, cid ∈ q.probe.matchIds.take k)
    (questions scenario) results
  monotone : ∀ limit, AtLeast k limit → ∃ results',
    runProbes scenario (variant.withLimit limit) none = .ok (results', skipped) ∧
      List.Forall₂ AdmitsMore results results'

/-- The enforcement model admits a principal to a held chunk that a probe lists. -/
def AdmitsSome (scenario : Scenario) (variant : Variant) : Prop :=
  ∃ enforce, enforcementFor scenario.rule variant.enforcement = .ok enforce ∧
    ∃ q ∈ questions scenario, ∃ cid ∈ q.probe.matchIds, ∃ chunk,
      variant.chunks.get? cid = some chunk ∧ enforce chunk.entitlement q.principal = true

/-- Facts about every question's result in two runs relate the results item by item. -/
theorem forall₂_map_answerTo {scenario : Scenario} {R : ProbeResult → ProbeResult → Prop}
    {f g : Question → ProbeResult} (h : ∀ q ∈ questions scenario, R (f q) (g q)) :
    List.Forall₂ R ((questions scenario).map f) ((questions scenario).map g) := by
  rw [List.forall₂_map_left_iff, List.forall₂_map_right_iff, List.forall₂_same]
  exact h

/-- Where something is served, the limit is positive unless nobody is admitted. -/
theorem limit_pos_of_served {scenario : Scenario} {variant : Variant} {k : Nat}
    {enforce : Enforcement}
    (henforce : enforcementFor scenario.rule variant.enforcement = .ok enforce)
    (hcondition : 0 < k ∨ ¬ AdmitsSome scenario variant) {q : Question}
    (hq : q ∈ questions scenario) {cid : String}
    (hserved : cid ∈
      (comparison scenario (variant.withLimit (some (k : Int))) enforce none q).served) :
    0 < k := by
  rcases hserved with ⟨hcandidate, chunk, hchunk, hadmits⟩
  have hlisted := candidates_subset q.probe _ hcandidate
  rcases hcondition with hk | hnone
  · exact hk
  · exact absurd ⟨enforce, henforce, q, hq, cid, hlisted, chunk, hchunk, hadmits⟩ hnone

/-- A limit is honoured exactly when it is positive or no principal is admitted to anything a
probe lists. -/
theorem limitHonoured_iff {scenario : Scenario} {variant : Variant} {k : Nat}
    {results : List ProbeResult} {skipped : List String}
    (hrun : runProbes scenario (variant.withLimit (some (k : Int))) none =
      .ok (results, skipped)) :
    LimitHonoured scenario variant k results skipped ↔
      0 < k ∨ ¬ AdmitsSome scenario variant := by
  rcases (runProbes_eq_ok_iff _ _ _ _ _).mp hrun with
    ⟨enforce, henforce, hdeclared, rfl, hskipped⟩
  have hreturned := fun q => mem_returned_iff scenario (variant.withLimit (some (k : Int)))
    enforce none q
  constructor
  · intro hhonoured
    rcases hhonoured with ⟨hwithin, -⟩
    rw [List.forall₂_map_right_iff, List.forall₂_same] at hwithin
    by_contra hneither
    simp only [not_or, not_lt, Nat.le_zero, not_not] at hneither
    rcases hneither with ⟨rfl, other, hother, q, hq, cid, hlisted, chunk, hchunk, hadmits⟩
    cases henforce.symm.trans hother
    have hserved : cid ∈ (answerTo scenario (variant.withLimit (some ((0 : Nat) : Int))) enforce
        none q).returned :=
      (hreturned q cid).mpr ⟨⟨hlisted, chunk, hchunk, hadmits⟩, Or.inl ⟨hlisted, chunk, hchunk⟩⟩
    simpa using hwithin q hq cid hserved
  · intro hcondition
    refine ⟨?_, fun limit hlimit => ⟨_, (runProbes_eq_ok_iff _ _ _ _ _).mpr
      ⟨enforce, henforce, hdeclared, rfl, hskipped⟩, ?_⟩⟩
    · rw [List.forall₂_map_right_iff, List.forall₂_same]
      intro q hq cid hcid
      have hserved := ((hreturned q cid).mp hcid).1
      rw [← candidates_of_pos q.probe (limit_pos_of_served henforce hcondition hq hserved)]
      exact hserved.1
    · apply forall₂_map_answerTo
      intro q hq
      refine admitsMore_answerTo rfl ?_
      intro cid hserved
      have hk := limit_pos_of_served henforce hcondition hq hserved
      exact ⟨candidates_subset_of_atLeast q.probe hk hlimit hserved.1, hserved.2⟩

/-- The results of {lit}`payroll` under a limit of zero. -/
def payrollUnlimited : List ProbeResult :=
  [{ probeId := "q-payroll", principalId := "p-hr", returned := ["c-payroll"],
     overRetrieved := ∅, underRetrieved := ∅, verdict := .verified, outcome := .clean,
     absentFromIndex := {"c-lost"} },
    { probeId := "q-payroll", principalId := "p-eng", returned := [], overRetrieved := ∅,
      underRetrieved := ∅, verdict := .verified, outcome := .clean,
      absentFromIndex := {"c-lost"} }]

theorem limitHonoured_iff_payroll :
    LimitHonoured payroll payrollIndex 0 payrollUnlimited [] ↔
      0 < 0 ∨ ¬ AdmitsSome payroll payrollIndex :=
  limitHonoured_iff (by decide +kernel : _ = Except.ok (payrollUnlimited, []))

/-- A limit of zero returns a listed chunk. -/
theorem payroll_zero_returns :
    runProbes payroll (payrollIndex.withLimit (some 0)) none = .ok (payrollUnlimited, []) ∧
      (∃ r ∈ payrollUnlimited, r.returned ≠ []) ∧
      ¬ LimitHonoured payroll payrollIndex 0 payrollUnlimited [] := by
  refine ⟨by decide +kernel, by decide, fun hhonoured => ?_⟩
  rcases Loop.exists_left_of_mem hhonoured.within (List.mem_cons_self) with ⟨q, -, hwithin⟩
  simpa using hwithin "c-payroll" (by simp)

/-! ## The naive filter -/

/-- The loop over the listed ids reads an enforcement model at the tags of held chunks only. -/
theorem listedStep_congr_enforce {scenario : Scenario} {variant : Variant}
    {enforce enforce' : Enforcement} {principal : Principal}
    (hagree : ∀ chunk ∈ variant.chunks.values,
      enforce chunk.entitlement principal = enforce' chunk.entitlement principal)
    (candidateIds : List String) (live : Option (List String)) :
    listedStep scenario variant enforce candidateIds principal live =
      listedStep scenario variant enforce' candidateIds principal live := by
  funext tally cid
  unfold listedStep
  cases hchunk : variant.chunks.get? cid with
  | none => rfl
  | some chunk =>
      have hreceives : receives enforce candidateIds principal live cid chunk =
          receives enforce' candidateIds principal live cid chunk := by
        simp only [receives, hagree chunk (Dict.mem_values_of_get? hchunk)]
      dsimp only
      rw [hreceives]

/-- So does a result. -/
theorem answerTo_congr {scenario : Scenario} (variant : Variant)
    {enforce enforce' : Enforcement} {q : Question}
    (hagree : ∀ chunk ∈ variant.chunks.values,
      enforce chunk.entitlement q.principal = enforce' chunk.entitlement q.principal)
    (retrieve : Option Retrieve) :
    answerTo scenario variant enforce retrieve q =
      answerTo scenario variant enforce' retrieve q := by
  have htally : tallyOf scenario variant enforce q.probe q.principal (q.live variant retrieve) =
      tallyOf scenario variant enforce' q.probe q.principal (q.live variant retrieve) := by
    simp only [tallyOf, listedStep_congr_enforce hagree]
  simp only [answerTo, probeResult, htally]

/-- Replacing faithful enforcement by the naive filter gives results that admit more, and the
same results where every tag is complete. -/
theorem naive_admits_more {scenario : Scenario} {variant : Variant} {results : List ProbeResult}
    {skipped : List String}
    (hrun : runProbes scenario (variant.enforcedBy "rule") none = .ok (results, skipped)) :
    ∃ results', runProbes scenario (variant.enforcedBy "naive-tenant-exclusion") none =
        .ok (results', skipped) ∧ List.Forall₂ AdmitsMore results results' ∧
      ((∀ chunk ∈ variant.chunks.values, chunk.entitlement.Complete) → results' = results) := by
  rcases (runProbes_eq_ok_iff _ _ _ _ _).mp hrun with
    ⟨enforce, henforce, hdeclared, rfl, hskipped⟩
  cases (enforcementFor_rule scenario.rule).symm.trans henforce
  refine ⟨_, (runProbes_eq_ok_iff _ _ _ _ _).mpr
    ⟨_, enforcementFor_naive scenario.rule, hdeclared, rfl, hskipped⟩, ?_, fun hcomplete => ?_⟩
  · refine forall₂_map_answerTo fun q _ => admitsMore_answerTo rfl ?_
    intro cid hserved
    rcases hserved with ⟨hcandidate, chunk, hchunk, hgrants⟩
    exact ⟨hcandidate, chunk, hchunk, scenario.rule.admitted_of_entitled hgrants⟩
  · apply List.map_congr_left
    intro q _
    have hagree := fun chunk hchunk =>
      scenario.rule.admitted_eq_entitled q.principal (hcomplete chunk hchunk)
    exact answerTo_congr variant hagree none

/-- Two tenants' readers and a page of one tenant's HR. -/
def tenanted : Scenario :=
  Scenario.ofLists "tenanted"
    [{ id := "d-payroll", system := "wiki",
       entitlement := { state := .stated, tenants := {"acme"}, roles := {"hr"} } }]
    [{ id := "p-acme", label := "HR at Acme", tenant := some "acme", roles := {"hr"} },
      { id := "p-globex", label := "HR at Globex", tenant := some "globex", roles := {"hr"} }]
    [{ id := "q-payroll", query := "payroll", principals := ["p-acme", "p-globex"],
       matchIds := ["c-payroll"] }]
    { system := "wiki", tenant := .member, role := .intersects, direct := .ignored,
      combine := .tenantAndRole }

/-- An index of {lit}`tenanted` whose one tag is complete. -/
def tenantedIndex : Variant :=
  Variant.ofChunks "clean"
    [{ id := "c-payroll", sourceDocumentIds := ["d-payroll"],
       entitlement := { state := .stated, tenants := {"acme"}, roles := {"hr"} } }] "rule" none

/-- Its results under either enforcement model. -/
def tenantedResults : List ProbeResult :=
  [{ probeId := "q-payroll", principalId := "p-acme", returned := ["c-payroll"],
     overRetrieved := ∅, underRetrieved := ∅, verdict := .verified, outcome := .clean },
    { probeId := "q-payroll", principalId := "p-globex", returned := [], overRetrieved := ∅,
      underRetrieved := ∅, verdict := .verified, outcome := .clean }]

theorem tenantedIndex_complete :
    ∀ chunk ∈ tenantedIndex.chunks.values, chunk.entitlement.Complete := by
  have hvalues : ∀ chunk ∈ tenantedIndex.chunks.values, chunk.entitlement =
      { state := .stated, tenants := {"acme"}, roles := {"hr"} } := by decide +kernel
  intro chunk hchunk
  rw [hvalues chunk hchunk]
  exact ⟨rfl, Finset.singleton_ne_empty _, Finset.singleton_ne_empty _⟩

theorem naive_admits_more_tenanted :
    ∃ results', runProbes tenanted (tenantedIndex.enforcedBy "naive-tenant-exclusion") none =
        .ok (results', []) ∧ List.Forall₂ AdmitsMore tenantedResults results' ∧
      results' = tenantedResults := by
  rcases naive_admits_more (by decide +kernel :
      runProbes tenanted (tenantedIndex.enforcedBy "rule") none = .ok (tenantedResults, [])) with
    ⟨results', hrun, hmore, hsame⟩
  exact ⟨results', hrun, hmore, hsame tenantedIndex_complete⟩

end Tearline
