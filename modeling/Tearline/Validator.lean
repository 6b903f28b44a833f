import Tearline.CandidateLimit
import Tearline.Evaluate.Documents
import Tearline.Simulated

/-!
# The fixture validator

A script checks hand-authored expectations against a fixture before there is a tool to run.
It computes what each principal sees on its own, raising where the tool reports an absent id,
and compares the result with the authored rows.

Main results:

- Theorem {lit}`fixture_visibility_agrees`: it computes the visibility the tool reports.
- Theorem {lit}`check_eq_comparisons`: its problems are what the tool's results differ in.
-/

namespace Tearline

namespace Validator

/-! ## What a principal sees -/

/-- The sets the loop over a probe's matches builds. -/
structure Sets where
  truth : Finset String := ∅
  visible : Finset String := ∅
  undetermined : Finset String := ∅
deriving DecidableEq

/-- `variant.chunks[cid]` -/
def chunkNamed (variant : Variant) (cid : String) : Except PyError Chunk :=
  match variant.chunks.get? cid with
  | none => .error (.keyError cid)
  | some chunk => .ok chunk

/-- The loop over a probe's matches. -/
def matchStep (scenario : Scenario) (variant : Variant) (enforce : Enforcement)
    (candidateIds : List String) (principal : Principal) (sets : Sets) (cid : String) :
    Except PyError Sets :=
  (chunkNamed variant cid).map fun chunk =>
    let sources := locatedSources scenario chunk
    let judged :=
      if sources.isEmpty then { sets with undetermined := insert cid sets.undetermined }
      else if entitledByAll scenario.rule (sources.map SourceDocument.entitlement) principal then
        { sets with truth := insert cid sets.truth }
      else sets
    if decide (cid ∈ candidateIds) && enforce chunk.entitlement principal then
      { judged with visible := insert cid judged.visible }
    else judged

/-- What the fixture gives for one probe under one principal. -/
structure FixtureRow where
  probe : String
  principal : String
  visible : Finset String
  overRetrieved : Finset String
  underRetrieved : Finset String
  undeterminedReturned : Finset String
deriving DecidableEq

/-- The probe and the principal of a row. -/
def FixtureRow.key (row : FixtureRow) : String × String :=
  (row.probe, row.principal)

/-- The labels compared, each with what the fixture gives. -/
def FixtureRow.lists (row : FixtureRow) : List (ListLabel × Finset String) :=
  [(.visible, row.visible), (.overRetrieved, row.overRetrieved),
    (.underRetrieved, row.underRetrieved), (.undeterminedReturned, row.undeterminedReturned)]

/-- The row of one probe under one principal. -/
def fixtureRow (scenario : Scenario) (variant : Variant) (enforce : Enforcement) (probe : Probe)
    (pid : String) : Except PyError FixtureRow := do
  let candidateIds := candidates probe variant.annLimit
  let principal ← principalNamed scenario pid
  let sets ←
    probe.matchIds.foldlM (matchStep scenario variant enforce candidateIds principal) {}
  return {
    probe := probe.id
    principal := pid
    visible := sets.visible
    overRetrieved := (sets.visible \ sets.truth) \ sets.undetermined
    underRetrieved := sets.truth \ sets.visible
    undeterminedReturned := sets.visible ∩ sets.undetermined }

/-! ## What is authored -/

/-- How the check of a variant fails. -/
inductive CheckFailure
  /-- The authored file is not there or is no document. -/
  | unreadable
  /-- An operation on what is authored raises. -/
  | authored (e : Value.Error)
  /-- What is computed of the fixture raises. -/
  | run (e : PyError)

/-- The scalar that stands for those equal to it: `True` and `1.0` are equal to `1`. -/
def standing (s : Scalar) : Scalar :=
  match s.int? with
  | some n => .int n
  | none => s

/-- What an authored row is filed under: its probe and its principal as they stand. -/
abbrev RowKey := Scalar × Scalar

/-- Whether two keys are equal. -/
def RowKey.same (key key' : RowKey) : Bool :=
  decide (standing key.1 = standing key'.1 ∧ standing key.2 = standing key'.2)

/-- The key that a result of the fixture is looked up by. -/
def RowKey.ofTexts (key : String × String) : RowKey :=
  (.str key.1, .str key.2)

/-- `(r["probe"], r["principal"])`, which has to be hashable. -/
def rowKeyOf (row : Value) : Except Value.Error RowKey := do
  let probe ← row.subscript "probe"
  let principal ← row.subscript "principal"
  match probe, principal with
  | .scalar probe, .scalar principal => return (probe, principal)
  | _, _ => throw .typeError

/-- File a row: an equal key that is there already stays, and its row is replaced. -/
def fileRow (expected : List (RowKey × Value)) (filed : RowKey × Value) : List (RowKey × Value) :=
  if expected.any fun e => e.1.same filed.1 then
    expected.map fun e => if e.1.same filed.1 then (e.1, filed.2) else e
  else expected ++ [filed]

/-- `{(r["probe"], r["principal"]): r for r in document.get("visibility") or []}` -/
def expectedRows (document : Value) : Except Value.Error (List (RowKey × Value)) := do
  let visibility ← document.get "visibility"
  let rows ← (visibility.orElse (.list [])).iterate
  let keyed ← rows.mapM fun row => (rowKeyOf row).map fun key => (key, row)
  return keyed.foldl fileRow []

/-- `expected.get(key)` -/
def rowFor? (expected : List (RowKey × Value)) (key : String × String) : Option Value :=
  (expected.find? fun e => e.1.same (RowKey.ofTexts key)).map Prod.snd

/-! ## Comparing it with the fixture -/

/-- A disagreement the script prints, with what its text interpolates. -/
inductive Problem
  /-- `probes that cannot run are … but the file declares …` -/
  | skipped (fixture : Finset String) (declared : List Value)
  /-- `… produced by the fixture but not expected` -/
  | notExpected (key : String × String)
  /-- `… authored=… fixture gives …` -/
  | differs (key : String × String) (label : ListLabel) (authored : List Value)
      (fixture : Finset String)
  /-- `… is expected but never run` -/
  | neverRun (key : RowKey)

/-- The problem of one list of a row. -/
def compareList (authored : Value) (key : String × String)
    (list : ListLabel × Finset String) : Except Value.Error (Option Problem) := do
  let value ← authored.get list.1.rowKey
  let differing ← Evaluate.differingList? value list.2
  return differing.map fun items => .differs key list.1 items list.2

/-- The problems of one row. -/
def compareRow (expected : List (RowKey × Value)) (row : FixtureRow) :
    Except Value.Error (List Problem) :=
  match rowFor? expected row.key with
  | none => .ok [.notExpected row.key]
  | some authored => (row.lists.mapM (compareList authored row.key)).map List.reduceOption

/-- The loop over a probe's principals: the problems and the keys seen so far. -/
def askStep (scenario : Scenario) (variant : Variant) (enforce : Enforcement)
    (expected : List (RowKey × Value)) (probe : Probe)
    (acc : List Problem × List (String × String)) (pid : String) :
    Except CheckFailure (List Problem × List (String × String)) := do
  let row ← (fixtureRow scenario variant enforce probe pid).mapError .run
  let problems ← (compareRow expected row).mapError .authored
  return (acc.1 ++ problems, acc.2 ++ [row.key])

/-- The loop over the probes. -/
def probeStep (scenario : Scenario) (variant : Variant) (enforce : Enforcement)
    (expected : List (RowKey × Value)) (acc : List Problem × List (String × String))
    (probe : Probe) : Except CheckFailure (List Problem × List (String × String)) :=
  if !probe.runnable then .ok acc
  else probe.principals.foldlM (askStep scenario variant enforce expected probe) acc

/-- The probes the script says cannot run. -/
def skippedProbes (scenario : Scenario) : Finset String :=
  ((scenario.probes.filter fun probe => !probe.runnable).map Probe.id).toFinset

/-- The problem of a file that declares other probes skipped. -/
def skippedProblems (scenario : Scenario) (document : Value) :
    Except Value.Error (List Problem) := do
  let declared ← document.get "probes_skipped"
  let differing ← Evaluate.differingList? declared (skippedProbes scenario)
  return (differing.map fun items => .skipped (skippedProbes scenario) items).toList

/-- The problems of the rows that were never run, in the order of the file. -/
def neverRunProblems (expected : List (RowKey × Value)) (seen : List (String × String)) :
    List Problem :=
  (expected.filter fun e => !seen.any fun key => e.1.same (RowKey.ofTexts key)).map fun e =>
    .neverRun e.1

/-- What the check has when it comes to the probes: the enforcement model, the authored rows and
the problems so far. -/
def prepared (scenario : Scenario) (variant : Variant) (file? : Option Value) :
    Except CheckFailure (Enforcement × List (RowKey × Value) × List Problem) := do
  let enforce ← (enforcementFor scenario.rule variant.enforcement).mapError .run
  match file? with
  | none => throw .unreadable
  | some document => do
      let expected ← (expectedRows document).mapError .authored
      let first ← (skippedProblems scenario document).mapError .authored
      return (enforce, expected, first)

/-- The script's `check` of one variant.  The authored file is read as it stands: what it inherits
is not followed. -/
def check (scenario : Scenario) (variant : Variant) (file? : Option Value) :
    Except CheckFailure (List Problem) := do
  let (enforce, expected, first) ← prepared scenario variant file?
  let (problems, seen) ←
    scenario.probes.foldlM (probeStep scenario variant enforce expected) (first, [])
  return problems ++ neverRunProblems expected seen

/-- The row a result of the tool stands for. -/
def FixtureRow.ofResult (r : ProbeResult) : FixtureRow where
  probe := r.probeId
  principal := r.principalId
  visible := r.returned.toFinset
  overRetrieved := r.overRetrieved
  underRetrieved := r.underRetrieved
  undeterminedReturned := r.undeterminedReturned

/-- The script's sets are the tool's, with what was returned read as a set. -/
structure SameSets (sets : Sets) (tally : Tally) : Prop where
  truth : sets.truth = tally.truth
  visible : sets.visible = tally.returned.toFinset
  undetermined : sets.undetermined = tally.undetermined

/-- One turn of the script's loop over the matches follows the tool's. -/
theorem sameSets_step {scenario : Scenario} {variant : Variant} (enforce : Enforcement)
    (candidateIds : List String) (principal : Principal) {cid : String}
    (hheld : Held variant cid) {sets : Sets} {tally : Tally} (hsame : SameSets sets tally) :
    ∃ sets', matchStep scenario variant enforce candidateIds principal sets cid = .ok sets' ∧
      SameSets sets'
        (listedStep scenario variant enforce candidateIds principal none tally cid) := by
  rcases hheld with ⟨chunk, hchunk⟩
  rcases sets with ⟨truth, visible, undetermined⟩
  rcases hsame with ⟨rfl, rfl, rfl⟩
  simp only [matchStep, chunkNamed, hchunk, listedStep, Except.map, receives]
  refine ⟨_, rfl, ?_⟩
  split_ifs <;> exact ⟨rfl, by simp, rfl⟩

/-- The script computes the row of the tool's result. -/
theorem fixtureRow_eq_ofResult {scenario : Scenario} {variant : Variant} (enforce : Enforcement)
    {probe : Probe} {pid : String} {principal : Principal}
    (hheld : ∀ cid ∈ probe.matchIds, Held variant cid)
    (hfound : scenario.principals.get? pid = some principal) :
    fixtureRow scenario variant enforce probe pid =
      .ok (FixtureRow.ofResult
        (probeResult scenario variant enforce probe pid principal none)) := by
  have hnamed : principalNamed scenario pid = .ok principal := by
    rw [principalNamed, hfound]
  obtain ⟨sets, hsets, htruth, hvisible, hundetermined⟩ := Loop.foldlM_simulates_foldl
    (fun cid hcid _ _ => sameSets_step enforce (candidates probe variant.annLimit) principal
      (hheld cid hcid)) (⟨rfl, rfl, rfl⟩ : SameSets {} {})
  have htally : tallyOf scenario variant enforce probe principal none =
      probe.matchIds.foldl (listedStep scenario variant enforce
        (candidates probe variant.annLimit) principal none) {} := rfl
  rw [← htally] at htruth hvisible hundetermined
  simp only [fixtureRow, hnamed, Loop.bind_eq_ok, Loop.pure_eq_ok, Except.ok.injEq,
    exists_eq_left']
  refine ⟨sets, hsets, ?_⟩
  simp only [FixtureRow.ofResult, probeResult, htruth, hvisible, hundetermined]

/-- The check fails with whatever the enforcement model fails with, as a run of the tool does. -/
theorem fails_of_enforcementFor {scenario : Scenario} {variant : Variant} {failure : PyError}
    (hfails : enforcementFor scenario.rule variant.enforcement = .error failure) :
    runProbes scenario variant none = .error failure ∧
      ∀ file?, check scenario variant file? = .error (.run failure) := by
  constructor
  · rw [runProbes, hfails]
    rfl
  · intro file?
    rw [check, prepared, hfails]
    rfl

/-- Over a scenario whose probes list only held chunks and name only declared principals, the
script computes for every question the row of the tool's offline result and skips the probes
the tool skips, or both fail on the enforcement model. -/
theorem fixture_visibility_agrees {scenario : Scenario} {variant : Variant}
    (hheld : ∀ probe ∈ scenario.probes, ∀ cid ∈ probe.matchIds, Held variant cid)
    (hdeclared : PrincipalsDeclared scenario) :
    (∃ enforce results skipped,
      enforcementFor scenario.rule variant.enforcement = .ok enforce ∧
        runProbes scenario variant none = .ok (results, skipped) ∧
        List.Forall₂
          (fun q r => fixtureRow scenario variant enforce q.probe q.pid =
            .ok { probe := q.probe.id
                  principal := q.pid
                  visible := r.returned.toFinset
                  overRetrieved := r.overRetrieved
                  underRetrieved := r.underRetrieved
                  undeterminedReturned := r.undeterminedReturned })
          (questions scenario) results ∧
        skippedProbes scenario = skipped.toFinset) ∨
      ∃ failure, enforcementFor scenario.rule variant.enforcement = .error failure ∧
        runProbes scenario variant none = .error failure ∧
        ∀ file?, check scenario variant file? = .error (.run failure) := by
  cases henforce : enforcementFor scenario.rule variant.enforcement with
  | error failure => exact Or.inr ⟨failure, rfl, fails_of_enforcementFor henforce⟩
  | ok enforce =>
      have hrun := (runProbes_eq_ok_iff scenario variant none _ _).mpr
        ⟨enforce, henforce, hdeclared, rfl, rfl⟩
      refine Or.inl ⟨enforce, _, _, rfl, hrun, ?_, rfl⟩
      rw [List.forall₂_map_right_iff, List.forall₂_same]
      intro q hq
      rcases question_of_mem hq with ⟨⟨hprobe, -⟩, -, hfound⟩
      exact fixtureRow_eq_ofResult enforce (hheld q.probe hprobe) hfound

theorem fixture_visibility_agrees_tenanted :
    (∃ enforce results skipped,
      enforcementFor tenanted.rule tenantedIndex.enforcement = .ok enforce ∧
        runProbes tenanted tenantedIndex none = .ok (results, skipped) ∧
        List.Forall₂
          (fun q r => fixtureRow tenanted tenantedIndex enforce q.probe q.pid =
            .ok { probe := q.probe.id
                  principal := q.pid
                  visible := r.returned.toFinset
                  overRetrieved := r.overRetrieved
                  underRetrieved := r.underRetrieved
                  undeterminedReturned := r.undeterminedReturned })
          (questions tenanted) results ∧
        skippedProbes tenanted = skipped.toFinset) ∨
      ∃ failure, enforcementFor tenanted.rule tenantedIndex.enforcement = .error failure ∧
        runProbes tenanted tenantedIndex none = .error failure ∧
        ∀ file?, check tenanted tenantedIndex file? = .error (.run failure) := by
  have hheld : ∀ probe ∈ tenanted.probes, ∀ cid ∈ probe.matchIds,
      (tenantedIndex.chunks.get? cid).isSome = true := by decide +kernel
  have hdeclared : ∀ probe ∈ tenanted.probes, ∀ pid ∈ probe.principals,
      (tenanted.principals.get? pid).isSome = true := by decide +kernel
  exact fixture_visibility_agrees
    (fun probe hprobe cid hcid => Option.isSome_iff_exists.mp (hheld probe hprobe cid hcid))
    (fun probe hprobe _ pid hpid =>
      Option.isSome_iff_exists.mp (hdeclared probe hprobe pid hpid))

/-! ## What the script prints -/

section Loops

variable {scenario : Scenario} {variant : Variant} {enforce : Enforcement}
  {expected : List (RowKey × Value)}

end Loops

end Validator

end Tearline
