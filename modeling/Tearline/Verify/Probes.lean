import Tearline.Fixtures
import Tearline.Library.Loop

/-!
# Differential retrieval

The same query is asked under every identity a probe names.  Truth is computed
from the source system; what the principal received is either what a live store
answered or what the variant's enforcement model admits.

Main results:

- Definition {lit}`questions`: the questions of a run in the order in which they
  are asked.
- Theorem {lit}`runProbes_eq_ok_iff`: a run that completes has one result for each
  question and skips exactly the probes that are not runnable.
-/

namespace Tearline

/-! ## One probe under one principal -/

/-- What a live store answers.  The store is outside the program and may answer
the same question differently later, so the answer also depends on how many
questions the run has asked before. -/
abbrev Retrieve := Nat → Probe → Principal → Option Int → List String

/-- Python's `xs[:k]`, which drops `-k` items from the end when `k` is negative. -/
def sliceTo (xs : List String) (k : Int) : List String :=
  if 0 ≤ k then xs.take k.toNat else xs.take (xs.length - (-k).toNat)

/-- The candidate set of the simulated search; a limit of zero is no limit. -/
def candidates (probe : Probe) (annLimit : Option Int) : List String :=
  match annLimit with
  | none => probe.matchIds
  | some k => if k ≠ 0 then sliceTo probe.matchIds k else probe.matchIds

/-- The collections one result is built from. -/
structure Tally where
  returned : List String := []
  truth : Finset String := ∅
  undetermined : Finset String := ∅
deriving DecidableEq

/-- Whether a listed chunk reached the principal: the live store answered it, or
it is a candidate the enforcement model admits. -/
def receives (enforce : Enforcement) (candidateIds : List String) (principal : Principal)
    (live : Option (List String)) (cid : String) (chunk : Chunk) : Bool :=
  match live with
  | none => decide (cid ∈ candidateIds) && enforce chunk.entitlement principal
  | some answered => decide (cid ∈ answered)

/-- The loop over the ids the probe lists. -/
def listedStep (scenario : Scenario) (variant : Variant) (enforce : Enforcement)
    (candidateIds : List String) (principal : Principal) (live : Option (List String))
    (tally : Tally) (cid : String) : Tally :=
  match variant.chunks.get? cid with
  | none => tally
  | some chunk =>
      let sources := locatedSources scenario chunk
      let judged :=
        if sources.isEmpty then
          { tally with undetermined := insert cid tally.undetermined }
        else if entitledByAll scenario.rule (sources.map SourceDocument.entitlement)
            principal then
          { tally with truth := insert cid tally.truth }
        else tally
      if receives enforce candidateIds principal live cid chunk then
        { judged with returned := judged.returned ++ [cid] }
      else judged

/-- The loop over the ids a live store answered, which skips the listed ones. -/
def unlistedStep (scenario : Scenario) (variant : Variant) (probe : Probe)
    (principal : Principal) (tally : Tally) (cid : String) : Tally :=
  if cid ∈ probe.matchIds then tally
  else
    match variant.chunks.get? cid with
    | none =>
        { tally with
          undetermined := insert cid tally.undetermined
          returned := tally.returned ++ [cid] }
    | some extra =>
        let sources := locatedSources scenario extra
        if sources.isEmpty then
          { tally with
            undetermined := insert cid tally.undetermined
            returned := tally.returned ++ [cid] }
        else if !entitledByAll scenario.rule (sources.map SourceDocument.entitlement)
            principal then
          { tally with returned := tally.returned ++ [cid] }
        else tally

/-- Both loops. -/
def tallyOf (scenario : Scenario) (variant : Variant) (enforce : Enforcement) (probe : Probe)
    (principal : Principal) (live : Option (List String)) : Tally :=
  let candidateIds := candidates probe variant.annLimit
  let listed :=
    probe.matchIds.foldl (listedStep scenario variant enforce candidateIds principal live) {}
  match live with
  | none => listed
  | some answered => answered.foldl (unlistedStep scenario variant probe principal) listed

/-- How what was returned differed from the truth. -/
def outcomeOf (overRetrieved underRetrieved : Finset String) : ProbeOutcome :=
  if overRetrieved ≠ ∅ ∧ underRetrieved ≠ ∅ then .both
  else if overRetrieved ≠ ∅ then .overRetrieval
  else if underRetrieved ≠ ∅ then .underRetrieval
  else .clean

/-- The result of one probe under one principal. -/
def probeResult (scenario : Scenario) (variant : Variant) (enforce : Enforcement)
    (probe : Probe) (pid : String) (principal : Principal) (live : Option (List String)) :
    ProbeResult :=
  let tally := tallyOf scenario variant enforce probe principal live
  let overRetrieved := (tally.returned.toFinset \ tally.truth) \ tally.undetermined
  let underRetrieved := tally.truth \ tally.returned.toFinset
  { probeId := probe.id
    principalId := pid
    returned := tally.returned
    overRetrieved := overRetrieved
    underRetrieved := underRetrieved
    verdict := if overRetrieved ≠ ∅ ∨ underRetrieved ≠ ∅ then .contradicted else .verified
    outcome := outcomeOf overRetrieved underRetrieved
    absentFromIndex :=
      (probe.matchIds.filter fun cid => (variant.chunks.get? cid).isNone).toFinset
    undeterminedReturned := tally.returned.toFinset ∩ tally.undetermined }

/-! ## A whole run -/

/-- `scenario.principals[pid]` -/
def principalNamed (scenario : Scenario) (pid : String) : Except PyError Principal :=
  match scenario.principals.get? pid with
  | none => .error (.keyError pid)
  | some principal => .ok principal

/-- The loop over a probe's principals.  Each turn asks one question of a live
store and appends one result, so the results so far count the questions asked. -/
def askStep (scenario : Scenario) (variant : Variant) (enforce : Enforcement)
    (retrieve : Option Retrieve) (probe : Probe) (results : List ProbeResult) (pid : String) :
    Except PyError (List ProbeResult) :=
  (principalNamed scenario pid).map fun principal =>
    let live := retrieve.map fun ask => ask results.length probe principal variant.annLimit
    results ++ [probeResult scenario variant enforce probe pid principal live]

/-- The loop over the probes: a probe under fewer than two identities is skipped. -/
def probeStep (scenario : Scenario) (variant : Variant) (enforce : Enforcement)
    (retrieve : Option Retrieve) (acc : List ProbeResult × List String) (probe : Probe) :
    Except PyError (List ProbeResult × List String) :=
  if !probe.runnable then .ok (acc.1, acc.2 ++ [probe.id])
  else
    (probe.principals.foldlM (askStep scenario variant enforce retrieve probe) acc.1).map
      fun results => (results, acc.2)

/-- The results of a run and the ids of the probes it skipped. -/
def runProbes (scenario : Scenario) (variant : Variant) (retrieve : Option Retrieve) :
    Except PyError (List ProbeResult × List String) := do
  let enforce ← enforcementFor scenario.rule variant.enforcement
  scenario.probes.foldlM (probeStep scenario variant enforce retrieve) ([], [])

/-! ## The questions of a run -/

/-- One probe asked under one of its principals. -/
structure Question where
  number : Nat
  probe : Probe
  pid : String
  principal : Principal

/-- What a live store answers to a question, when there is one. -/
def Question.live (q : Question) (variant : Variant) (retrieve : Option Retrieve) :
    Option (List String) :=
  retrieve.map fun ask => ask q.number q.probe q.principal variant.annLimit

/-- A probe under each of its declared principals. -/
def askedOf (scenario : Scenario) (probe : Probe) : List (Probe × String × Principal) :=
  probe.principals.filterMap fun pid =>
    (scenario.principals.get? pid).map fun principal => (probe, pid, principal)

/-- The questions of a run, numbered in the order in which they are asked. -/
def questions (scenario : Scenario) : List Question :=
  ((scenario.probes.filter Probe.runnable).flatMap (askedOf scenario)).mapIdx
    fun n asked => ⟨n, asked.1, asked.2.1, asked.2.2⟩

/-- Every runnable probe names only declared principals. -/
def PrincipalsDeclared (scenario : Scenario) : Prop :=
  ∀ probe ∈ scenario.probes, probe.runnable = true →
    ∀ pid ∈ probe.principals, ∃ principal, scenario.principals.get? pid = some principal

/-- The result of a question. -/
def answerTo (scenario : Scenario) (variant : Variant) (enforce : Enforcement)
    (retrieve : Option Retrieve) (q : Question) : ProbeResult :=
  probeResult scenario variant enforce q.probe q.pid q.principal (q.live variant retrieve)

/-- The questions of a run are the runnable probes under their declared principals, with numbers. -/
theorem map_questions (scenario : Scenario) :
    (questions scenario).map (fun q => (q.probe, q.pid, q.principal)) =
      (scenario.probes.filter Probe.runnable).flatMap (askedOf scenario) := by
  apply List.ext_getElem
  · simp [questions]
  · intro n hn hn'
    simp [questions]

private theorem mem_asked_iff (scenario : Scenario) (asked : Probe × String × Principal) :
    asked ∈ (scenario.probes.filter Probe.runnable).flatMap (askedOf scenario) ↔
      (asked.1 ∈ scenario.probes ∧ asked.1.runnable = true) ∧ asked.2.1 ∈ asked.1.principals ∧
        scenario.principals.get? asked.2.1 = some asked.2.2 := by
  rcases asked with ⟨probe, pid, principal⟩
  simp only [List.mem_flatMap, List.mem_filter, askedOf, List.mem_filterMap,
    Option.map_eq_some_iff]
  constructor
  · intro hasked
    rcases hasked with ⟨_, hprobe, _, hpid, _, hfound, heq⟩
    cases heq
    exact ⟨hprobe, hpid, hfound⟩
  · intro hasked
    rcases hasked with ⟨hprobe, hpid, hfound⟩
    exact ⟨probe, hprobe, pid, hpid, principal, hfound, rfl⟩

/-- A question asks a runnable probe of the scenario under one of its declared
principals. -/
theorem question_of_mem {scenario : Scenario} {q : Question} (h : q ∈ questions scenario) :
    (q.probe ∈ scenario.probes ∧ q.probe.runnable = true) ∧ q.pid ∈ q.probe.principals ∧
      scenario.principals.get? q.pid = some q.principal := by
  rcases List.mem_mapIdx.mp h with ⟨n, hn, rfl⟩
  exact (mem_asked_iff scenario _).mp (List.getElem_mem hn)

/-- Every runnable probe is asked under each of its declared principals. -/
theorem exists_question {scenario : Scenario} {probe : Probe} {pid : String}
    {principal : Principal} (hprobe : probe ∈ scenario.probes) (hrunnable : probe.runnable = true)
    (hpid : pid ∈ probe.principals) (hfound : scenario.principals.get? pid = some principal) :
    ∃ q ∈ questions scenario, q.probe = probe ∧ q.pid = pid ∧ q.principal = principal := by
  obtain ⟨n, hn, hasked⟩ := List.mem_iff_getElem.mp
    ((mem_asked_iff scenario (probe, pid, principal)).mpr ⟨⟨hprobe, hrunnable⟩, hpid, hfound⟩)
  refine ⟨_, List.mem_mapIdx.mpr ⟨n, hn, rfl⟩, ?_⟩
  rw [hasked]
  exact ⟨rfl, rfl, rfl⟩

private theorem principalNamed_eq_ok_iff (scenario : Scenario) (pid : String)
    (principal : Principal) :
    principalNamed scenario pid = .ok principal ↔
      scenario.principals.get? pid = some principal := by
  unfold principalNamed
  cases scenario.principals.get? pid with
  | none => simp
  | some found => simp

/-- One result for one numbered question, written on what the loop has at hand. -/
private def resultAt (scenario : Scenario) (variant : Variant) (enforce : Enforcement)
    (retrieve : Option Retrieve) (n : Nat) (asked : Probe × String × Principal) : ProbeResult :=
  answerTo scenario variant enforce retrieve ⟨n, asked.1, asked.2.1, asked.2.2⟩

private theorem foldlM_askStep_eq_ok_iff (scenario : Scenario) (variant : Variant)
    (enforce : Enforcement) (retrieve : Option Retrieve) (probe : Probe) (pids : List String)
    (results out : List ProbeResult) :
    pids.foldlM (askStep scenario variant enforce retrieve probe) results = .ok out ↔
      (∀ pid ∈ pids, ∃ principal, scenario.principals.get? pid = some principal) ∧
        out = (pids.filterMap fun pid =>
            (scenario.principals.get? pid).map fun principal => (probe, pid, principal)).foldl
          (fun rs asked => rs ++ [resultAt scenario variant enforce retrieve rs.length asked])
          results := by
  induction pids generalizing results with
  | nil =>
      rw [List.foldlM_nil, Loop.pure_eq_ok, eq_comm]
      simp
  | cons pid pids ih =>
      rw [List.foldlM_cons, Loop.bind_eq_ok]
      simp only [ih, askStep, Loop.map_eq_ok, principalNamed_eq_ok_iff]
      cases hfound : scenario.principals.get? pid with
      | none => simp [hfound]
      | some principal =>
          simp [hfound, resultAt, answerTo, Question.live]

private theorem foldlM_probeStep_eq_ok_iff (scenario : Scenario) (variant : Variant)
    (enforce : Enforcement) (retrieve : Option Retrieve) (probes : List Probe)
    (acc out : List ProbeResult × List String) :
    probes.foldlM (probeStep scenario variant enforce retrieve) acc = .ok out ↔
      (∀ probe ∈ probes, probe.runnable = true →
          ∀ pid ∈ probe.principals, ∃ principal, scenario.principals.get? pid = some principal) ∧
        out =
          (((probes.filter Probe.runnable).flatMap (askedOf scenario)).foldl
              (fun rs asked => rs ++ [resultAt scenario variant enforce retrieve rs.length asked])
              acc.1,
            acc.2 ++ (probes.filter fun probe => !probe.runnable).map Probe.id) := by
  induction probes generalizing acc with
  | nil =>
      rw [List.foldlM_nil, Loop.pure_eq_ok, eq_comm]
      simp
  | cons probe probes ih =>
      rw [List.foldlM_cons, Loop.bind_eq_ok]
      simp only [ih, probeStep]
      cases hrunnable : probe.runnable with
      | false => simp [hrunnable]
      | true =>
          simp only [Bool.not_true, Bool.false_eq_true, if_false, Loop.map_eq_ok,
            foldlM_askStep_eq_ok_iff]
          simp [hrunnable, askedOf, and_assoc]

/-- A run completes exactly when its enforcement model is in the closed set and its
runnable probes name declared principals; it then has one result for each question
and skips exactly the probes that are not runnable. -/
theorem runProbes_eq_ok_iff (scenario : Scenario) (variant : Variant)
    (retrieve : Option Retrieve) (results : List ProbeResult) (skipped : List String) :
    runProbes scenario variant retrieve = .ok (results, skipped) ↔
      ∃ enforce, enforcementFor scenario.rule variant.enforcement = .ok enforce ∧
        PrincipalsDeclared scenario ∧
        results = (questions scenario).map (answerTo scenario variant enforce retrieve) ∧
        skipped = (scenario.probes.filter fun probe => !probe.runnable).map Probe.id := by
  unfold runProbes
  rw [Loop.bind_eq_ok]
  apply exists_congr
  intro enforce
  apply and_congr_right
  intro _
  rw [foldlM_probeStep_eq_ok_iff, Loop.foldl_append_length]
  simp [questions, PrincipalsDeclared, resultAt, List.mapIdx_eq_zipIdx_map, Function.comp_def]

/-- A fact about every question's result is a fact about the results, in order. -/
theorem forall₂_results {scenario : Scenario} {variant : Variant} {retrieve : Option Retrieve}
    {results : List ProbeResult} {skipped : List String}
    (hrun : runProbes scenario variant retrieve = .ok (results, skipped))
    {P : Question → ProbeResult → Prop}
    (h : ∀ enforce, enforcementFor scenario.rule variant.enforcement = .ok enforce →
      ∀ q ∈ questions scenario, P q (answerTo scenario variant enforce retrieve q)) :
    List.Forall₂ P (questions scenario) results := by
  rcases (runProbes_eq_ok_iff _ _ _ _ _).mp hrun with ⟨enforce, henforce, -, rfl, -⟩
  rw [List.forall₂_map_right_iff, List.forall₂_same]
  exact h enforce henforce

end Tearline
