import Mathlib.Data.List.ReduceOption
import Tearline.Fixtures
import Tearline.Library.Loop

/-!
# The propagation axis

For each chunk of an index the verifier compares the tag with the entitlements
of the chunk's located source documents.  No source leaves the chunk
unverifiable, one source is compared field by field, and several sources are
compared through their safe bound over the principals under test.

Main results:

- Theorem {lit}`checkPropagation_eq_ok_iff`: the loop is the per-chunk check, in
  order, with its untraceable chunks counted.
- Theorem {lit}`exists_finding_iff`: a finding about a chunk of the index is what
  the per-chunk check says about that chunk.
- Theorem {lit}`checkChunk_eq_none_iff`: silence means one located source with the
  same state, tenants, roles and direct grants.
- Theorem {lit}`checkChunk_of_several`: several sources always give a finding, and
  its verdict is decided by the safe bound.
- Theorem {lit}`exists_checkChunk_of_several_iff`: the verdict and the cause that the
  safe bound gives.
-/

namespace Tearline

/-! ## Comparing one chunk -/

/-- The detail of an untraceable chunk's finding. -/
def untraceableDetail : String :=
  "no source document, so there is no ACL to compare against. The tag may be " ++
    "correct; nothing available establishes that."

/-- The detail of a tag within the safe bound. -/
def withinBoundDetail : String :=
  "sources diverge and the tag discloses nothing beyond what all of them " ++
    "permit. Not a claim that the tag is correct: the organisation may " ++
    "legitimately have decided otherwise, and the source has not recorded it."

/-- The detail of a tag beyond the safe bound. -/
def beyondBoundDetail : String :=
  "the tag grants beyond what every source permits. The correct entitlement " ++
    "is still undetermined; that this one is wrong is not."

/-- Drift when the latest ACL change is after ingestion, a propagation fault when
it is not, and undetermined when a timestamp is missing. -/
def causeFromTimestamps (chunk : Chunk) (sources : List SourceDocument) :
    Except PyError MismatchCause :=
  let aclTimes := sources.filterMap SourceDocument.aclModifiedAt
  match chunk.ingestedAt, aclTimes with
  | none, _ => .ok .undetermined
  | some _, [] => .ok .undetermined
  | some ingested, first :: rest =>
      if aclTimes.length ≠ sources.length then .ok .undetermined
      else do
        let latest ← DateTime.maxOf first rest
        return if ← latest.gt ingested then .drift else .propagationFault

/-- The fields two entitlements are compared on. -/
def same (a b : Entitlement) : Bool :=
  decide (a.state = b.state ∧ a.tenants = b.tenants ∧ a.roles = b.roles ∧
    a.principals = b.principals)

/-- Whether the tag grants to nobody under test whom the bound excludes. -/
def withinBound (scenario : Scenario) (tag bound : Entitlement)
    (principals : List Principal) : Bool :=
  principals.all fun p => !scenario.rule.entitled tag p || scenario.rule.entitled bound p

/-- The body of the propagation loop: the finding for one chunk, if any. -/
def checkChunk (scenario : Scenario) (chunk : Chunk) :
    Except PyError (Option PropagationFinding) :=
  match locatedSources scenario chunk with
  | [] =>
      .ok (some
        { chunkId := chunk.id
          verdict := .unverifiable
          cause := .undetermined
          observed := chunk.entitlement
          expected := none
          detail := untraceableDetail })
  | [source] =>
      if same chunk.entitlement source.entitlement then .ok none
      else do
        let cause ← causeFromTimestamps chunk [source]
        return some
          { chunkId := chunk.id
            verdict := .contradicted
            cause := cause
            observed := chunk.entitlement
            expected := some source.entitlement }
  | sources =>
      match safeBound (sources.map SourceDocument.entitlement) with
      | none => .error .assertionError
      | some bound =>
          if withinBound scenario chunk.entitlement bound scenario.principals.values then
            .ok (some
              { chunkId := chunk.id
                verdict := .unverifiable
                cause := .indeterminateSource
                observed := chunk.entitlement
                expected := some bound
                detail := withinBoundDetail })
          else
            .ok (some
              { chunkId := chunk.id
                verdict := .contradicted
                cause := .exceedsSafeBound
                observed := chunk.entitlement
                expected := some bound
                detail := beyondBoundDetail })

/-- One turn of the loop: append the chunk's finding and count an untraceable one. -/
def checkPropagationStep (scenario : Scenario) (acc : List PropagationFinding × Nat)
    (chunk : Chunk) : Except PyError (List PropagationFinding × Nat) :=
  (checkChunk scenario chunk).map fun finding =>
    (acc.1 ++ finding.toList,
      if (locatedSources scenario chunk).isEmpty then acc.2 + 1 else acc.2)

/-- The findings of an index and the number of its untraceable chunks. -/
def checkPropagation (scenario : Scenario) (variant : Variant) :
    Except PyError (List PropagationFinding × Nat) :=
  variant.chunks.values.foldlM (checkPropagationStep scenario) ([], 0)

/-! ## What the check says about one chunk -/

/-- The compared fields agree. -/
theorem same_eq_true_iff (a b : Entitlement) :
    same a b = true ↔ a.state = b.state ∧ a.tenants = b.tenants ∧ a.roles = b.roles ∧
      a.principals = b.principals := by
  simp [same]

/-- Entitlements that agree on the compared fields grant the same principals. -/
theorem entitled_eq_of_same (rule : EntitlementRule) {a b : Entitlement}
    (principal : Principal) (h : same a b = true) :
    rule.entitled a principal = rule.entitled b principal := by
  rcases (same_eq_true_iff a b).mp h with ⟨hstate, htenants, hroles, hprincipals⟩
  exact rule.entitled_congr principal hstate htenants hroles hprincipals

/-- A tag exceeds a bound exactly when it grants a principal the bound excludes. -/
theorem withinBound_eq_false_iff (scenario : Scenario) (tag bound : Entitlement)
    (principals : List Principal) :
    withinBound scenario tag bound principals = false ↔
      ∃ p ∈ principals, scenario.rule.entitled tag p = true ∧
        scenario.rule.entitled bound p = false := by
  simp [withinBound]

theorem safeBound_isSome {entitlements : List Entitlement} (h : entitlements ≠ []) :
    ∃ bound, safeBound entitlements = some bound := by
  cases entitlements with
  | nil => exact absurd rfl h
  | cons first rest => exact ⟨_, rfl⟩

/-- An untraceable chunk always gets a finding, with no expected entitlement. -/
theorem checkChunk_of_untraceable {scenario : Scenario} {chunk : Chunk}
    (h : locatedSources scenario chunk = []) :
    ∃ f, checkChunk scenario chunk = .ok (some f) ∧ f.verdict = .unverifiable ∧
      f.expected = none := by
  unfold checkChunk
  rw [h]
  exact ⟨_, rfl, rfl, rfl⟩

/-- A chunk tagged as its one located source is passed over. -/
theorem checkChunk_of_same {scenario : Scenario} {chunk : Chunk} {source : SourceDocument}
    (h : locatedSources scenario chunk = [source])
    (hsame : same chunk.entitlement source.entitlement = true) :
    checkChunk scenario chunk = .ok none := by
  unfold checkChunk
  rw [h]
  exact if_pos hsame

/-- A chunk tagged differently from its one located source is contradicted, when
its timestamps can be compared at all. -/
theorem checkChunk_of_mismatch {scenario : Scenario} {chunk : Chunk} {source : SourceDocument}
    {finding : Option PropagationFinding}
    (h : locatedSources scenario chunk = [source])
    (hsame : same chunk.entitlement source.entitlement = false)
    (hok : checkChunk scenario chunk = .ok finding) :
    ∃ f, finding = some f ∧ f.verdict = .contradicted ∧
      causeFromTimestamps chunk [source] = .ok f.cause := by
  unfold checkChunk at hok
  rw [h] at hok
  simp only [hsame, Bool.false_eq_true, if_false, Loop.bind_eq_ok, Loop.pure_eq_ok] at hok
  rcases hok with ⟨cause, hcause, rfl⟩
  exact ⟨_, rfl, rfl, hcause⟩

/-- Several sources always give a finding, and the safe bound decides its verdict. -/
theorem checkChunk_of_several {scenario : Scenario} {chunk : Chunk}
    (h : 2 ≤ (locatedSources scenario chunk).length) :
    ∃ bound f,
      safeBound ((locatedSources scenario chunk).map SourceDocument.entitlement) = some bound ∧
        checkChunk scenario chunk = .ok (some f) ∧
        (withinBound scenario chunk.entitlement bound scenario.principals.values = true ∧
            f.verdict = .unverifiable ∧ f.cause = .indeterminateSource ∨
          withinBound scenario chunk.entitlement bound scenario.principals.values = false ∧
            f.verdict = .contradicted ∧ f.cause = .exceedsSafeBound) := by
  have hnonempty : (locatedSources scenario chunk).map SourceDocument.entitlement ≠ [] := by
    intro hnil
    rw [List.map_eq_nil_iff] at hnil
    simp [hnil] at h
  rcases safeBound_isSome hnonempty with ⟨bound, hbound⟩
  unfold checkChunk
  split
  · rename_i hnone
    simp [hnone] at h
  · rename_i source hone
    simp [hone] at h
  · rw [hbound]
    by_cases hwithin :
        withinBound scenario chunk.entitlement bound scenario.principals.values = true
    · exact ⟨bound, _, rfl, if_pos hwithin, Or.inl ⟨hwithin, rfl, rfl⟩⟩
    · exact ⟨bound, _, rfl, if_neg hwithin, Or.inr ⟨Bool.eq_false_iff.mpr hwithin, rfl, rfl⟩⟩

/-- The verdict and the cause that the safe bound gives a tag of several sources. -/
def boundFinding (within : Bool) : Verdict × MismatchCause :=
  if within then (.unverifiable, .indeterminateSource) else (.contradicted, .exceedsSafeBound)

/-- Several sources give a finding of a verdict and a cause exactly when the safe bound does. -/
theorem exists_checkChunk_of_several_iff {scenario : Scenario} {chunk : Chunk}
    {bound : Entitlement} (h : 2 ≤ (locatedSources scenario chunk).length)
    (hbound : safeBound ((locatedSources scenario chunk).map SourceDocument.entitlement) =
      some bound) (verdict : Verdict) (cause : MismatchCause) :
    (∃ f, checkChunk scenario chunk = .ok (some f) ∧ f.verdict = verdict ∧ f.cause = cause) ↔
      boundFinding (withinBound scenario chunk.entitlement bound scenario.principals.values) =
        (verdict, cause) := by
  rcases checkChunk_of_several h with ⟨bound', f, hbound', hf, hcases⟩
  cases hbound.symm.trans hbound'
  have hgiven : boundFinding (withinBound scenario chunk.entitlement bound
      scenario.principals.values) = (f.verdict, f.cause) := by
    rcases hcases with ⟨hwithin, hverdict, hcause⟩ | ⟨hwithin, hverdict, hcause⟩
    · rw [hwithin, hverdict, hcause]
      rfl
    · rw [hwithin, hverdict, hcause]
      rfl
  rw [hgiven, Prod.mk.injEq]
  constructor
  · intro hreported
    rcases hreported with ⟨g, hg, hverdict, hcause⟩
    cases hf.symm.trans hg
    exact ⟨hverdict, hcause⟩
  · intro hequal
    exact ⟨f, hf, hequal⟩

/-- A finding names its chunk and carries the tag the chunk was observed with. -/
theorem checkChunk_observed {scenario : Scenario} {chunk : Chunk} {f : PropagationFinding}
    (h : checkChunk scenario chunk = .ok (some f)) :
    f.chunkId = chunk.id ∧ f.observed = chunk.entitlement := by
  unfold checkChunk at h
  split at h
  · cases h
    exact ⟨rfl, rfl⟩
  · split at h
    · cases h
    · simp only [Loop.bind_eq_ok, Loop.pure_eq_ok, Option.some.injEq] at h
      rcases h with ⟨cause, -, rfl⟩
      exact ⟨rfl, rfl⟩
  · split at h
    · cases h
    · split at h <;> cases h <;> exact ⟨rfl, rfl⟩

/-- Silence means one located source that agrees with the tag. -/
theorem checkChunk_eq_none_iff (scenario : Scenario) (chunk : Chunk) :
    checkChunk scenario chunk = .ok none ↔
      ∃ source, locatedSources scenario chunk = [source] ∧
        same chunk.entitlement source.entitlement = true := by
  constructor
  · intro hnone
    match hsources : locatedSources scenario chunk with
    | [] =>
        rcases checkChunk_of_untraceable hsources with ⟨f, hf, -⟩
        rw [hnone] at hf
        cases hf
    | [source] =>
        refine ⟨source, rfl, ?_⟩
        by_contra hsame
        obtain ⟨f, hf, -⟩ :=
          checkChunk_of_mismatch hsources (Bool.eq_false_iff.mpr hsame) hnone
        cases hf
    | first :: second :: rest =>
        have hseveral : 2 ≤ (locatedSources scenario chunk).length := by simp [hsources]
        rcases checkChunk_of_several hseveral with ⟨-, f, -, hf, -⟩
        rw [hnone] at hf
        cases hf
  · intro hsingle
    rcases hsingle with ⟨source, hsource, hsame⟩
    exact checkChunk_of_same hsource hsame

/-- The check completes unless a chunk that disagrees with its one located source has
timestamps that cannot be compared. -/
theorem checkChunk_isOk_iff (scenario : Scenario) (chunk : Chunk) :
    (∃ outcome, checkChunk scenario chunk = .ok outcome) ↔
      ∀ source, locatedSources scenario chunk = [source] →
        same chunk.entitlement source.entitlement = false →
          ∃ cause, causeFromTimestamps chunk [source] = .ok cause := by
  constructor
  · intro hcompletes source hsources hsame
    rcases hcompletes with ⟨outcome, hok⟩
    rcases checkChunk_of_mismatch hsources hsame hok with ⟨f, -, -, hcause⟩
    exact ⟨f.cause, hcause⟩
  · intro hcause
    match hsources : locatedSources scenario chunk with
    | [] =>
        rcases checkChunk_of_untraceable hsources with ⟨f, hf, -⟩
        exact ⟨some f, hf⟩
    | [source] =>
        by_cases hsame : same chunk.entitlement source.entitlement = true
        · exact ⟨none, checkChunk_of_same hsources hsame⟩
        · rcases hcause source hsources (Bool.eq_false_iff.mpr hsame) with ⟨cause, hok⟩
          unfold checkChunk
          rw [hsources]
          simp only [if_neg hsame, hok]
          exact ⟨_, rfl⟩
    | first :: second :: rest =>
        have hseveral : 2 ≤ (locatedSources scenario chunk).length := by simp [hsources]
        rcases checkChunk_of_several hseveral with ⟨-, f, -, hf, -⟩
        exact ⟨some f, hf⟩

/-! ## What the loop reports -/

private theorem foldl_findings (scenario : Scenario) {chunks : List Chunk}
    {outcomes : List (Option PropagationFinding)}
    (h : List.Forall₂ (fun c o => checkChunk scenario c = .ok o) chunks outcomes)
    (acc : List PropagationFinding × Nat) :
    (chunks.zip outcomes).foldl
        (fun acc p => (acc.1 ++ p.2.toList,
          if (locatedSources scenario p.1).isEmpty then acc.2 + 1 else acc.2)) acc =
      (acc.1 ++ outcomes.reduceOption,
        acc.2 + chunks.countP fun c => (locatedSources scenario c).isEmpty) := by
  induction h generalizing acc with
  | nil => simp [List.reduceOption]
  | @cons chunk outcome chunks outcomes hhead htail ih =>
      rw [List.zip_cons_cons, List.foldl_cons, ih, List.countP_cons]
      cases outcome with
      | none => split <;> simp [List.reduceOption, Nat.add_assoc, Nat.add_comm 1]
      | some f => split <;> simp [List.reduceOption, Nat.add_assoc, Nat.add_comm 1]

/-- The loop runs the per-chunk check over the chunks in order, keeps the findings
in that order and counts the chunks without a located source. -/
theorem checkPropagation_eq_ok_iff (scenario : Scenario) (variant : Variant)
    (findings : List PropagationFinding) (untraceable : Nat) :
    checkPropagation scenario variant = .ok (findings, untraceable) ↔
      ∃ outcomes,
        List.Forall₂ (fun c o => checkChunk scenario c = .ok o) variant.chunks.values outcomes ∧
          findings = outcomes.reduceOption ∧
          untraceable =
            variant.chunks.values.countP fun c => (locatedSources scenario c).isEmpty := by
  have hloop := Loop.foldlM_eq_ok_iff (checkChunk scenario)
    (fun acc chunk finding => (acc.1 ++ finding.toList,
      if (locatedSources scenario chunk).isEmpty then acc.2 + 1 else acc.2))
    variant.chunks.values ([], 0) (findings, untraceable)
  unfold checkPropagation checkPropagationStep
  rw [hloop]
  apply exists_congr
  intro outcomes
  apply and_congr_right
  intro houtcomes
  rw [foldl_findings scenario houtcomes]
  simp

/-- The loop completes exactly when the check of every chunk does. -/
theorem checkPropagation_isOk_iff (scenario : Scenario) (variant : Variant) :
    (∃ out, checkPropagation scenario variant = .ok out) ↔
      ∀ chunk ∈ variant.chunks.values, ∃ outcome, checkChunk scenario chunk = .ok outcome := by
  constructor
  · intro hcompletes chunk hchunk
    rcases hcompletes with ⟨⟨findings, untraceable⟩, hok⟩
    rcases (checkPropagation_eq_ok_iff _ _ _ _).mp hok with ⟨outcomes, houtcomes, -⟩
    rcases Loop.exists_right_of_mem houtcomes hchunk with ⟨outcome, -, houtcome⟩
    exact ⟨outcome, houtcome⟩
  · intro hall
    rcases Loop.exists_forall₂ hall with ⟨outcomes, houtcomes⟩
    exact ⟨(outcomes.reduceOption, _),
      (checkPropagation_eq_ok_iff _ _ _ _).mpr ⟨outcomes, houtcomes, rfl, rfl⟩⟩

/-- A completed check has an outcome for every chunk. -/
theorem checkChunk_ok_of_mem {scenario : Scenario} {variant : Variant}
    {findings : List PropagationFinding} {untraceable : Nat}
    (h : checkPropagation scenario variant = .ok (findings, untraceable))
    {chunk : Chunk} (hchunk : chunk ∈ variant.chunks.values) :
    ∃ outcome, checkChunk scenario chunk = .ok outcome :=
  (checkPropagation_isOk_iff scenario variant).mp ⟨_, h⟩ chunk hchunk

/-- The findings are the outcomes of the chunks that are not passed over. -/
theorem mem_findings_iff {scenario : Scenario} {variant : Variant}
    {findings : List PropagationFinding} {untraceable : Nat}
    (h : checkPropagation scenario variant = .ok (findings, untraceable))
    (f : PropagationFinding) :
    f ∈ findings ↔ ∃ chunk ∈ variant.chunks.values, checkChunk scenario chunk = .ok (some f) := by
  rcases (checkPropagation_eq_ok_iff _ _ _ _).mp h with ⟨outcomes, houtcomes, rfl, -⟩
  rw [List.reduceOption_mem_iff]
  constructor
  · intro hf
    exact Loop.exists_left_of_mem houtcomes hf
  · intro hfound
    rcases hfound with ⟨chunk, hchunk, hok⟩
    rcases Loop.exists_right_of_mem houtcomes hchunk with ⟨outcome, hmem, hsame⟩
    rw [hok] at hsame
    cases hsame
    exact hmem

/-- A finding about a chunk of the index is what the check says about that chunk. -/
theorem exists_finding_iff {scenario : Scenario} {variant : Variant}
    {findings : List PropagationFinding} {untraceable : Nat}
    (h : checkPropagation scenario variant = .ok (findings, untraceable))
    {chunk : Chunk} (hchunk : chunk ∈ variant.chunks.values)
    (P : PropagationFinding → Prop) :
    (∃ f ∈ findings, f.chunkId = chunk.id ∧ P f) ↔
      ∃ f, checkChunk scenario chunk = .ok (some f) ∧ P f := by
  constructor
  · intro hreported
    rcases hreported with ⟨f, hf, hid, hP⟩
    rcases (mem_findings_iff h f).mp hf with ⟨other, hother, hok⟩
    have hsame : other = chunk :=
      variant.keyed.eq_of_key_eq hother hchunk ((checkChunk_observed hok).1.symm.trans hid)
    exact ⟨f, hsame ▸ hok, hP⟩
  · intro hfound
    rcases hfound with ⟨f, hok, hP⟩
    exact ⟨f, (mem_findings_iff h f).mpr ⟨chunk, hchunk, hok⟩, (checkChunk_observed hok).1, hP⟩

/-- A chunk of the index has a finding unless its one located source agrees with it. -/
theorem exists_finding_iff_not_same {scenario : Scenario} {variant : Variant}
    {findings : List PropagationFinding} {untraceable : Nat}
    (h : checkPropagation scenario variant = .ok (findings, untraceable))
    {chunk : Chunk} (hchunk : chunk ∈ variant.chunks.values) :
    (∃ f ∈ findings, f.chunkId = chunk.id) ↔
      ¬ ∃ source, locatedSources scenario chunk = [source] ∧
        same chunk.entitlement source.entitlement = true := by
  have hreported := exists_finding_iff h hchunk fun _ => True
  simp only [and_true] at hreported
  rw [hreported, ← checkChunk_eq_none_iff]
  rcases checkChunk_ok_of_mem h hchunk with ⟨outcome, houtcome⟩
  rw [houtcome]
  cases outcome with
  | none => simp
  | some f => simp

/-- The check is silent exactly when every chunk agrees with its one located source. -/
theorem checkPropagation_silent_iff (scenario : Scenario) (variant : Variant) :
    (∃ untraceable, checkPropagation scenario variant = .ok ([], untraceable)) ↔
      ∀ chunk ∈ variant.chunks.values, ∃ source, locatedSources scenario chunk = [source] ∧
        same chunk.entitlement source.entitlement = true := by
  constructor
  · intro hempty chunk hchunk
    rcases hempty with ⟨untraceable, hsilent⟩
    by_contra hdiffers
    rcases (exists_finding_iff_not_same hsilent hchunk).mpr hdiffers with ⟨f, hf, -⟩
    simp at hf
  · intro hall
    refine ⟨_, (checkPropagation_eq_ok_iff _ _ _ _).mpr
      ⟨variant.chunks.values.map fun _ => none, ?_, ?_, rfl⟩⟩
    · rw [List.forall₂_map_right_iff, List.forall₂_same]
      exact fun chunk hchunk => (checkChunk_eq_none_iff scenario chunk).mpr (hall chunk hchunk)
    · rw [eq_comm, List.reduceOption_eq_nil_iff]
      exact ⟨variant.chunks.values.length, List.map_const'⟩

end Tearline
