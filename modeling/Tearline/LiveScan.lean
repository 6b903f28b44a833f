import Tearline.Library.Dialogue
import Tearline.Scan

/-!
# Scanning a store that has a state

A store may change with every request it answers, and a request it does not answer ends the
scan.  The functions here are the ones that are handed a retrieval, run against such a store.
What is asked of the store is settled before it answers, so that a scan which reports is the
scan of a recording.

Main results:

- Theorem {lit}`runProbesLive_eq_ok_iff`: a live run is a dialogue on the questions of the
  scenario and a run over the record of it.
- Theorem {lit}`scanLive_eq_ok_iff`: the same for a scan.
-/

namespace Tearline

/-! ## Live stores -/

/-- How a live run ends without a report: something is raised in the program, or by the store
or on the way to it. -/
inductive LiveFailure
  | program (e : PyError)
  | store
deriving DecidableEq, Repr

/-- A step of a live run that does not involve the store. -/
def offline {σ α : Type} (x : Except PyError α) : StateT σ (Except LiveFailure) α := fun s =>
  (x.mapError .program).map fun a => (a, s)

/-- Retrievals from a store with states of some type. -/
abbrev LiveRetrieve (σ : Type) :=
  Probe → Principal → Option Int → StateT σ (Except LiveFailure) (List String)

section Runs

variable {σ : Type} (scenario : Scenario) (variant : Variant) (retrieve : LiveRetrieve σ)

/-- One turn of the loop over a probe's principals, up to the result that is appended. -/
def resultLive (enforce : Enforcement) (asked : Probe × String) :
    StateT σ (Except LiveFailure) ProbeResult := do
  let principal ← offline (principalNamed scenario asked.2)
  let live ← retrieve asked.1 principal variant.annLimit
  return probeResult scenario variant enforce asked.1 asked.2 principal (some live)

/-- The loop over a probe's principals. -/
def askStepLive (enforce : Enforcement) (probe : Probe) (results : List ProbeResult)
    (pid : String) : StateT σ (Except LiveFailure) (List ProbeResult) := do
  let result ← resultLive scenario variant retrieve enforce (probe, pid)
  return results ++ [result]

/-- The loop over the probes. -/
def probeStepLive (enforce : Enforcement) (acc : List ProbeResult × List String)
    (probe : Probe) : StateT σ (Except LiveFailure) (List ProbeResult × List String) :=
  if !probe.runnable then return (acc.1, acc.2 ++ [probe.id])
  else do
    let results ←
      probe.principals.foldlM (askStepLive scenario variant retrieve enforce probe) acc.1
    return (results, acc.2)

/-- The source's `run_probes` against a live store. -/
def runProbesLive : StateT σ (Except LiveFailure) (List ProbeResult × List String) := do
  let enforce ← offline (enforcementFor scenario.rule variant.enforcement)
  scenario.probes.foldlM (probeStepLive scenario variant retrieve enforce) ([], [])

/-- The source's `verify` against a live store. -/
def verifyLive (enforcementSite : String) :
    StateT σ (Except LiveFailure) VerificationReport := do
  let (findings, untraceable) ← offline (checkPropagation scenario variant)
  let (probes, skipped) ← runProbesLive scenario variant retrieve
  return {
    chunksExamined := variant.chunks.values.length
    chunksUntraceable := untraceable
    propagation := findings
    probes := probes
    probesSkipped := skipped
    isPartial := !skipped.isEmpty || probes.any fun p => decide (p.absentFromIndex ≠ ∅)
    enforcementSite := enforcementSite }

end Runs

/-- An adapter to a live store. -/
structure LiveBackend (σ Vector : Type) where
  enforcementSite : String
  chunks : StateT σ (Except LiveFailure) (List Chunk)
  retrieve : RetrievalRequest Vector → StateT σ (Except LiveFailure) (List String)

/-- What a scan of a live store points at. -/
structure LiveTarget (σ Vector : Type) where
  source : Dict String SourceDocument
  backend : LiveBackend σ Vector
  enforcement : String
  annLimit : Option Int

/-- The same with a store that has no state in place of the live one. -/
def LiveTarget.withStore {σ Vector : Type} (target : LiveTarget σ Vector)
    (backend : Backend Vector) : Target Vector where
  source := target.source
  backend := backend
  enforcement := target.enforcement
  annLimit := target.annLimit

/-- The inventory and the answers on record stand in for the store. -/
def LiveTarget.recorded {σ Vector : Type} (target : LiveTarget σ Vector) (chunks : List Chunk)
    (answers : List (List String)) : Target Vector :=
  target.withStore
    { enforcementSite := target.backend.enforcementSite
      chunks := chunks
      retrieve := fun asked _ => Dialogue.recorded answers asked }

/-- The scenario that a scan of a live store reads. -/
def Shared.liveScenario {σ Vector : Type} (shared : Shared) (target : LiveTarget σ Vector) :
    Scenario :=
  shared.scenario (target.recorded [] [])

section Scans

variable {σ Vector : Type} (deterministicVector : String → Nat → Vector)

/-- What a scan asks for, for a probe and a principal. -/
def requestOf (variant : Variant) (probe : Probe) (principal : Principal)
    (limit : Option Int) : RetrievalRequest Vector where
  vector := deterministicVector probe.query dimensions
  principal := principal
  limit := requestLimit limit variant

/-- The source's `scan` of a live store. -/
def scanLive (shared : Shared) (target : LiveTarget σ Vector) :
    StateT σ (Except LiveFailure) VerificationReport := do
  let chunks ← target.backend.chunks
  let recording := target.recorded chunks []
  let variant := recording.variant chunks
  verifyLive (shared.scenario recording) variant
    (fun probe principal limit =>
      target.backend.retrieve (requestOf deterministicVector variant probe principal limit))
    target.backend.enforcementSite

/-- The requests a scan makes for an inventory, in order. -/
def requestsOf (scenario : Scenario) (variant : Variant) : List (RetrievalRequest Vector) :=
  (questions scenario).map fun q =>
    requestOf deterministicVector variant q.probe q.principal variant.annLimit

end Scans

/-! ## Answers that agree -/

/-- Verification reports the same for retrievals that answer every question alike. -/
theorem verify_of_live_eq {scenario : Scenario} {variant : Variant}
    {retrieve retrieve' : Option Retrieve} {site : String} {report : VerificationReport}
    (hlive : ∀ q ∈ questions scenario, q.live variant retrieve = q.live variant retrieve')
    (hverify : verify scenario variant retrieve site = .ok report) :
    verify scenario variant retrieve' site = .ok report := by
  rcases (verify_eq_ok_iff _ _ _ _ _).mp hverify with ⟨hcheck, hrun, hrest⟩
  rcases (runProbes_eq_ok_iff _ _ _ _ _).mp hrun with
    ⟨enforce, henforce, hdeclared, hresults, hskipped⟩
  refine (verify_eq_ok_iff _ _ _ _ _).mpr ⟨hcheck, (runProbes_eq_ok_iff _ _ _ _ _).mpr
    ⟨enforce, henforce, hdeclared, ?_, hskipped⟩, hrest⟩
  rw [hresults]
  apply List.map_congr_left
  intro q hq
  rw [answerTo, answerTo, hlive q hq]

/-! ## A live run is the run of a recording -/

section Steps

variable {σ α : Type} {s last : σ}

@[simp]
theorem offline_eq_ok {x : Except PyError α} {a : α} :
    offline x s = .ok (a, last) ↔ x = .ok a ∧ last = s := by
  cases x with
  | error e => simp [offline, Except.mapError, Except.map]
  | ok b => simp [offline, Except.mapError, Except.map, eq_comm]

end Steps

section Runs

variable {σ : Type} {scenario : Scenario} {variant : Variant} {retrieve : LiveRetrieve σ}
  {s last : σ}

/-- What a store is asked for one of a probe's principals. -/
def askedOfStore (variant : Variant) (retrieve : LiveRetrieve σ) :
    Partner σ (Probe × String × Principal) (List String) LiveFailure := fun asked =>
  retrieve asked.1 asked.2.2 variant.annLimit

/-- The result of an answered question. -/
def resultOfAnswer (scenario : Scenario) (variant : Variant) (enforce : Enforcement)
    (asked : Probe × String × Principal) (answered : List String) : ProbeResult :=
  probeResult scenario variant enforce asked.1 asked.2.1 asked.2.2 (some answered)

theorem principalNamed_eq_ok {pid : String} {principal : Principal} :
    principalNamed scenario pid = .ok principal ↔
      scenario.principals.get? pid = some principal := by
  unfold principalNamed
  cases scenario.principals.get? pid with
  | none => simp
  | some found => simp

/-- A probe is answered for a list of principals exactly when these are declared and the store
answers for each of them in turn. -/
theorem dialogue_resultLive_iff {enforce : Enforcement} {probe : Probe} {pids : List String}
    {results : List ProbeResult} :
    Dialogue (fun pid => resultLive scenario variant retrieve enforce (probe, pid)) s pids
        results last ↔
      (∀ pid ∈ pids, ∃ principal, scenario.principals.get? pid = some principal) ∧
        ∃ answers, Dialogue (askedOfStore variant retrieve) s
          (pids.filterMap fun pid =>
            (scenario.principals.get? pid).map fun principal => (probe, pid, principal))
          answers last ∧
          results = List.zipWith (resultOfAnswer scenario variant enforce)
            (pids.filterMap fun pid =>
              (scenario.principals.get? pid).map fun principal => (probe, pid, principal))
            answers := by
  induction pids generalizing s results with
  | nil => simp [and_comm]
  | cons pid pids ih =>
      rw [Dialogue.cons_iff, List.forall_mem_cons]
      simp only [ih]
      simp only [resultLive, Dialogue.bind_eq_ok, Dialogue.pure_eq_ok, offline_eq_ok,
        principalNamed_eq_ok, Prod.mk.injEq]
      cases hfound : scenario.principals.get? pid with
      | none => simp
      | some principal =>
          simp only [List.filterMap_cons, hfound, Option.map_some, Dialogue.cons_iff,
            Option.some.injEq]
          constructor
          · intro hanswered
            rcases hanswered with ⟨_, _, _, ⟨_, _, ⟨rfl, rfl⟩, live, next, hlive, rfl, rfl⟩,
              ⟨hdeclared, answers, hrest, rfl⟩, rfl⟩
            exact ⟨⟨⟨_, rfl⟩, hdeclared⟩, live :: answers,
              ⟨live, _, answers, hlive, hrest, rfl⟩, rfl⟩
          · intro hanswered
            rcases hanswered with ⟨⟨-, hdeclared⟩, _, ⟨live, next, answers, hlive, hrest, rfl⟩,
              rfl⟩
            exact ⟨_, next, _, ⟨principal, s, ⟨rfl, rfl⟩, live, next, hlive, rfl, rfl⟩,
              ⟨hdeclared, answers, hrest, rfl⟩, rfl⟩

/-- The loop over a probe's principals completes exactly when these are declared and the store
answers for each of them in turn. -/
theorem foldlM_askStepLive_eq_ok_iff {enforce : Enforcement} {probe : Probe}
    {pids : List String} {results out : List ProbeResult} :
    pids.foldlM (askStepLive scenario variant retrieve enforce probe) results s =
        .ok (out, last) ↔
      (∀ pid ∈ pids, ∃ principal, scenario.principals.get? pid = some principal) ∧
        ∃ answers, Dialogue (askedOfStore variant retrieve) s
          (pids.filterMap fun pid =>
            (scenario.principals.get? pid).map fun principal => (probe, pid, principal))
          answers last ∧
          out = results ++ List.zipWith (resultOfAnswer scenario variant enforce)
            (pids.filterMap fun pid =>
              (scenario.principals.get? pid).map fun principal => (probe, pid, principal))
            answers := by
  have hloop := Dialogue.foldlM_append_eq_ok_iff
    (fun out pid s => (rfl : askStepLive scenario variant retrieve enforce probe out pid s =
      (resultLive scenario variant retrieve enforce (probe, pid) s).map fun p =>
        (out ++ [p.1], p.2))) pids results out s last
  rw [hloop]
  simp only [dialogue_resultLive_iff]
  constructor
  · intro hdialogue
    rcases hdialogue with ⟨_, ⟨hdeclared, answers, hanswers, rfl⟩, rfl⟩
    exact ⟨hdeclared, answers, hanswers, rfl⟩
  · intro hdialogue
    rcases hdialogue with ⟨hdeclared, answers, hanswers, rfl⟩
    exact ⟨_, ⟨hdeclared, answers, hanswers, rfl⟩, rfl⟩

/-- The loop over the probes completes exactly when the principals of the runnable ones are
declared and the store answers for each of them in turn. -/
theorem foldlM_probeStepLive_eq_ok_iff {enforce : Enforcement} {probes : List Probe}
    {acc out : List ProbeResult × List String} :
    probes.foldlM (probeStepLive scenario variant retrieve enforce) acc s = .ok (out, last) ↔
      (∀ probe ∈ probes, probe.runnable = true →
          ∀ pid ∈ probe.principals, ∃ principal, scenario.principals.get? pid = some principal) ∧
        ∃ answers, Dialogue (askedOfStore variant retrieve) s
            ((probes.filter Probe.runnable).flatMap (askedOf scenario)) answers last ∧
          out = (acc.1 ++ List.zipWith (resultOfAnswer scenario variant enforce)
              ((probes.filter Probe.runnable).flatMap (askedOf scenario)) answers,
            acc.2 ++ (probes.filter fun probe => !probe.runnable).map Probe.id) := by
  induction probes generalizing acc s with
  | nil =>
      rw [List.foldlM_nil, Dialogue.pure_eq_ok]
      simp [and_comm]
  | cons probe probes ih =>
      rw [List.foldlM_cons, Dialogue.bind_eq_ok]
      simp only [ih, probeStepLive]
      cases hrunnable : probe.runnable with
      | false =>
          simp [hrunnable, Dialogue.pure_eq_ok]
      | true =>
          simp only [Bool.not_true, Bool.false_eq_true, if_false, Dialogue.bind_eq_ok,
            Dialogue.pure_eq_ok, foldlM_askStepLive_eq_ok_iff, List.filter_cons_of_pos hrunnable,
            List.flatMap_cons, Dialogue.append_iff, List.forall_mem_cons, hrunnable,
            forall_const, List.filter_cons]
          constructor
          · intro hruns
            rcases hruns with ⟨_, _, ⟨_, middle, ⟨hdeclared, front, hfront, rfl⟩, hnext⟩,
              hothers, back, hback, rfl⟩
            cases hnext
            have hlength : (askedOf scenario probe).length = front.length := hfront.length_eq.symm
            refine ⟨⟨hdeclared, hothers⟩, _, ⟨_, front, back, hfront, hback, rfl⟩, ?_⟩
            rw [List.zipWith_append hlength, List.append_assoc]
            rfl
          · intro hdialogue
            rcases hdialogue with ⟨⟨hdeclared, hothers⟩, _,
              ⟨middle, front, back, hfront, hback, rfl⟩, rfl⟩
            refine ⟨_, middle, ⟨_, middle, ⟨hdeclared, front, hfront, rfl⟩, rfl⟩,
              hothers, back, hback, ?_⟩
            rw [List.zipWith_append hfront.length_eq.symm, ← List.append_assoc]
            rfl

/-- The questions are numbered from zero. -/
theorem number_questions (scenario : Scenario) (n : Nat) (hn : n < (questions scenario).length) :
    (questions scenario)[n].number = n := by
  simp [questions]

/-- The results of recorded answers are those of the answers as they come. -/
theorem zipWith_resultOfAnswer (scenario : Scenario) (variant : Variant) (enforce : Enforcement)
    {answers : List (List String)} (hlength : answers.length = (questions scenario).length) :
    List.zipWith (resultOfAnswer scenario variant enforce)
        ((questions scenario).map fun q => (q.probe, q.pid, q.principal)) answers =
      (questions scenario).map (answerTo scenario variant enforce
        (some fun asked _ _ _ => Dialogue.recorded answers asked)) := by
  apply List.ext_getElem
  · simp [hlength]
  · intro n hn hn'
    rw [List.length_map] at hn'
    have hlt : n < answers.length := by omega
    simp [resultOfAnswer, answerTo, Question.live, number_questions, Dialogue.recorded, hlt]

/-- A live run completes exactly when the store answers the questions of the scenario in turn and
the run over the record of its answers completes, with the same results. -/
theorem runProbesLive_eq_ok_iff {results : List ProbeResult} {skipped : List String} :
    runProbesLive scenario variant retrieve s = .ok ((results, skipped), last) ↔
      ∃ answers,
        Dialogue (fun q => retrieve q.probe q.principal variant.annLimit) s (questions scenario)
          answers last ∧
        runProbes scenario variant (some fun asked _ _ _ => Dialogue.recorded answers asked) =
          .ok (results, skipped) := by
  rw [runProbesLive, Dialogue.bind_eq_ok]
  simp only [offline_eq_ok, foldlM_probeStepLive_eq_ok_iff, runProbes_eq_ok_iff,
    ← map_questions, Dialogue.map_iff, List.nil_append, Prod.mk.injEq]
  constructor
  · intro hruns
    rcases hruns with ⟨enforce, _, ⟨henforce, rfl⟩, hdeclared, answers, hanswers, rfl, rfl⟩
    exact ⟨answers, hanswers, enforce, henforce, hdeclared,
      zipWith_resultOfAnswer scenario variant enforce hanswers.length_eq, rfl⟩
  · intro hdialogue
    rcases hdialogue with ⟨answers, hanswers, enforce, henforce, hdeclared, rfl, rfl⟩
    exact ⟨enforce, s, ⟨henforce, rfl⟩, hdeclared, answers, hanswers,
      (zipWith_resultOfAnswer scenario variant enforce hanswers.length_eq).symm, rfl⟩

/-- The same for both axes. -/
theorem verifyLive_eq_ok_iff {site : String} {report : VerificationReport} :
    verifyLive scenario variant retrieve site s = .ok (report, last) ↔
      ∃ answers,
        Dialogue (fun q => retrieve q.probe q.principal variant.annLimit) s (questions scenario)
          answers last ∧
        verify scenario variant (some fun asked _ _ _ => Dialogue.recorded answers asked) site =
          .ok report := by
  simp only [verifyLive, Dialogue.bind_eq_ok, Prod.exists, offline_eq_ok,
    runProbesLive_eq_ok_iff, Dialogue.pure_eq_ok, Prod.mk.injEq, verify, Loop.bind_eq_ok,
    Loop.pure_eq_ok]
  constructor
  · intro hruns
    rcases hruns with ⟨findings, untraceable, _, ⟨hcheck, rfl⟩, results, skipped, _,
      ⟨answers, hanswers, hrun⟩, rfl, rfl⟩
    exact ⟨answers, hanswers, findings, untraceable, hcheck, results, skipped, hrun, rfl⟩
  · intro hdialogue
    rcases hdialogue with ⟨answers, hanswers, findings, untraceable, hcheck, results, skipped,
      hrun, rfl⟩
    exact ⟨findings, untraceable, s, ⟨hcheck, rfl⟩, results, skipped, last,
      ⟨answers, hanswers, hrun⟩, rfl, rfl⟩

end Runs

section Scans

variable {σ Vector : Type} {deterministicVector : String → Nat → Vector} {shared : Shared}
  {target : LiveTarget σ Vector} {s last : σ}

/-- A scan of a live store reports exactly what a scan of a recording does: of the inventory
that was read and of the answers to the requests which that inventory and the shared files call
for, each made once and in order, whatever the answers to the ones before. -/
theorem scanLive_eq_ok_iff {report : VerificationReport} :
    scanLive deterministicVector shared target s = .ok (report, last) ↔
      ∃ chunks middle answers,
        target.backend.chunks s = .ok (chunks, middle) ∧
        Dialogue target.backend.retrieve middle
          (requestsOf deterministicVector (shared.scenario (target.recorded chunks []))
            ((target.recorded chunks []).variant chunks)) answers last ∧
        scan deterministicVector shared (target.recorded chunks answers) = .ok report := by
  rw [scanLive, Dialogue.bind_eq_ok]
  apply exists_congr
  intro chunks
  apply exists_congr
  intro middle
  rw [verifyLive_eq_ok_iff]
  simp only [requestsOf, Dialogue.map_iff, ← exists_and_left]
  rfl

/-- Where the answers to the requests of a scan are those of a function, the answer on record to
a question is too. -/
theorem recorded_mapIdx {scenario : Scenario} {variant : Variant}
    (f : Nat → RetrievalRequest Vector → List String) {q : Question}
    (hq : q ∈ questions scenario) :
    Dialogue.recorded ((requestsOf deterministicVector scenario variant).mapIdx f) q.number =
      f q.number
        (requestOf deterministicVector variant q.probe q.principal variant.annLimit) := by
  rcases List.mem_iff_getElem.mp hq with ⟨n, hn, rfl⟩
  rw [number_questions scenario n hn]
  simp [Dialogue.recorded, requestsOf, hn]

/-- A scan of a recording of the answers of a store without a state is a scan of that store. -/
theorem scan_withStore_of_recorded {backend : Backend Vector} {report : VerificationReport}
    (hsite : backend.enforcementSite = target.backend.enforcementSite)
    (hscan : scan deterministicVector shared (target.recorded backend.chunks
      ((requestsOf deterministicVector (shared.scenario (target.recorded backend.chunks []))
        ((target.recorded backend.chunks []).variant backend.chunks)).mapIdx
          backend.retrieve)) = .ok report) :
    scan deterministicVector shared (target.withStore backend) = .ok report := by
  have hverify : verify (shared.scenario (target.recorded backend.chunks []))
      ((target.recorded backend.chunks []).variant backend.chunks)
      (some fun asked _ _ _ => Dialogue.recorded ((requestsOf deterministicVector
        (shared.scenario (target.recorded backend.chunks []))
        ((target.recorded backend.chunks []).variant backend.chunks)).mapIdx
          backend.retrieve) asked)
      target.backend.enforcementSite = .ok report := hscan
  rw [← hsite] at hverify
  refine verify_of_live_eq (fun q hq => ?_) hverify
  exact congrArg some (recorded_mapIdx backend.retrieve hq)

end Scans

end Tearline
