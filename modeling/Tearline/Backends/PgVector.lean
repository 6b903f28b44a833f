import Tearline.Library.Dict
import Tearline.Library.Session
import Tearline.Scan

/-!
# The pgvector adapter

A retrieval names its principal in a setting local to the transaction, asks for chunk ids and
rolls back.  The policy that reads the setting is the store's.  Statements fail and the program
is interrupted without notice, and nothing is rolled back then.

Main results:

- Theorem {lit}`opened_of_subject`: an adapter that opens starts without a transaction.
- Theorem {lit}`identities_isolated`: no retrieval is answered under another one's principal.
- Theorem {lit}`retrieve_eq_of_returned`: what a retrieval returns does not depend on what the
  session was used for before.
- Theorem {lit}`returned_retrieves_iff`: which retrievals of a sequence return.
-/

namespace Tearline

namespace PgVector

open Session

/-- The settings local to a transaction. -/
abbrev Settings := Dict String String

/-- `PRINCIPAL_SETTING` -/
def principalSetting : String :=
  "tearline.principal_tenant"

/-! ## Opening the adapter -/

/-- Why the adapter refuses a connection. -/
inductive BypassesRowSecurity
  /-- `cannot determine the privileges of …` -/
  | undetermined
  /-- `the connected role bypasses row-level security …` -/
  | bypasses
deriving DecidableEq, Repr

/-- What is not for the adapter to decide when it is opened: the row the store holds on the
connected role, and what becomes of each statement. -/
structure Opening where
  privileges : Settings → Option Bool
  asking : Fate
  /-- Whether `fetchone` comes to its end. -/
  fetched : Bool
  rollingBack : Fate

/-- `SELECT rolsuper OR rolbypassrls FROM pg_roles WHERE rolname = current_user` -/
def askPrivileges (opening : Opening) : Statement Settings (Option Bool) := fun settings =>
  (opening.privileges settings, settings)

/-- The source's `assert_subject_to_row_security`: the session it leaves, and its verdict if
nothing else is raised. -/
def assertSubjectToRowSecurity (session : Session Settings) (opening : Opening) :
    Session Settings × Option (Except BypassesRowSecurity Unit) :=
  let asked := session.execute opening.asking (askPrivileges opening)
  match asked.answer with
  | none => (asked.session, none)
  | some row =>
      if opening.fetched then
        let (session', rolledBack) := asked.session.rollback opening.rollingBack
        if rolledBack then
          match row with
          | none => (session', some (.error .undetermined))
          | some true => (session', some (.error .bypasses))
          | some false => (session', some (.ok ()))
        else (session', none)
      else (asked.session, none)

/-- An adapter that opens has asked as a role that is subject to the policy, and starts without a
transaction. -/
theorem opened_of_subject {session : Session Settings} {opening : Opening}
    (h : (assertSubjectToRowSecurity session opening).2 = some (.ok ())) :
    (∃ settings, opening.privileges settings = some false) ∧
      (assertSubjectToRowSecurity session opening).1 = .idle := by
  unfold assertSubjectToRowSecurity at h ⊢
  cases hanswer : (session.execute opening.asking (askPrivileges opening)).answer with
  | none => simp [hanswer] at h
  | some row =>
      rcases exists_locals_of_evaluated (evaluated_of_answer hanswer) with
        ⟨settings, -, hrow, -⟩
      simp only [hanswer] at h ⊢
      by_cases hfetched : opening.fetched = true
      · simp only [hfetched, if_true] at h ⊢
        split at h
        · rename_i hrolledBack
          simp only [hrolledBack, if_true]
          cases row with
          | none => cases h
          | some bypasses =>
              cases bypasses with
              | true => cases h
              | false => exact ⟨⟨settings, hrow.symm⟩, rollback_fst hrolledBack⟩
        · cases h
      · simp [hfetched] at h

/-! ## Retrieving -/

/-- A row of `SELECT id FROM chunks`. -/
structure Row where
  id : String
deriving DecidableEq, Repr

variable {Vector : Type}

/-- A retrieval, and everything that is not for it to decide: the rows that the store holds at
the time for given settings, and what becomes of each statement. -/
structure Call (Vector : Type) where
  request : RetrievalRequest Vector
  rows : Settings → Vector → Int → List Row
  assigning : Fate
  selecting : Fate
  /-- Whether `fetchall` comes to its end. -/
  fetched : Bool
  rollingBack : Fate

/-- `request.principal.tenant or ""` -/
def tenantOf (principal : Principal) : String :=
  principal.tenant.getD ""

/-- `SELECT set_config(name, value, true)` -/
def setConfig (name value : String) : Statement Settings String := fun settings =>
  (value, settings.set name value)

/-- `SELECT id FROM chunks ORDER BY embedding <-> … LIMIT …`, with the settings it is evaluated
under. -/
def selectIds (call : Call Vector) : Statement Settings (Settings × List Row) := fun settings =>
  ((settings, call.rows settings call.request.vector call.request.limit), settings)

/-- What a retrieval leaves: the session, what the store evaluated the query to, if it did, and
what is returned, if nothing is raised. -/
structure Outcome where
  session : Session Settings
  selected : Option (Settings × List Row)
  returned : Option (List String)

/-- The first `cursor.execute`. -/
def assigned (session : Session Settings) (call : Call Vector) : Execution Settings String :=
  session.execute call.assigning (setConfig principalSetting (tenantOf call.request.principal))

/-- The second `cursor.execute`. -/
def selected (session : Session Settings) (call : Call Vector) :
    Execution Settings (Settings × List Row) :=
  (assigned session call).session.execute call.selecting (selectIds call)

/-- The source's `retrieve`. -/
def retrieve (session : Session Settings) (call : Call Vector) : Outcome :=
  match (assigned session call).answer with
  | none => { session := (assigned session call).session, selected := none, returned := none }
  | some _ =>
      match (selected session call).answer with
      | none =>
          { session := (selected session call).session
            selected := (selected session call).evaluated
            returned := none }
      | some (_, rows) =>
          if call.fetched then
            let ids := rows.map Row.id
            let (session', rolledBack) :=
              (selected session call).session.rollback call.rollingBack
            { session := session'
              selected := (selected session call).evaluated
              returned := if rolledBack then some ids else none }
          else
            { session := (selected session call).session
              selected := (selected session call).evaluated
              returned := none }

/-- Retrievals one after the other on one connection. -/
def retrieves (session : Session Settings) : List (Call Vector) → List Outcome
  | [] => []
  | call :: calls => retrieve session call :: retrieves (retrieve session call).session calls

/-! ## One retrieval -/

variable {session : Session Settings} {call : Call Vector}

/-- The query is evaluated only after the setting has been acknowledged. -/
theorem selected_retrieve {settings : Settings} {rows : List Row}
    (h : (retrieve session call).selected = some (settings, rows)) :
    (∃ value, (assigned session call).answer = some value) ∧
      (selected session call).evaluated = some (settings, rows) := by
  unfold retrieve at h
  cases hassigned : (assigned session call).answer with
  | none => simp [hassigned] at h
  | some value =>
      refine ⟨⟨value, rfl⟩, ?_⟩
      simp only [hassigned] at h
      split at h
      · exact h
      · split at h <;> exact h

/-- What is returned has been fetched from the answer and the transaction is known to have
ended. -/
theorem returned_retrieve {ids : List String}
    (h : (retrieve session call).returned = some ids) :
    ∃ settings rows, (retrieve session call).selected = some (settings, rows) ∧
      ids = rows.map Row.id ∧ (retrieve session call).session = .idle := by
  unfold retrieve at h ⊢
  cases hassigned : (assigned session call).answer with
  | none => simp [hassigned] at h
  | some value =>
      simp only [hassigned] at h ⊢
      cases hanswer : (selected session call).answer with
      | none => simp [hanswer] at h
      | some answer =>
          rcases answer with ⟨settings, rows⟩
          simp only [hanswer] at h ⊢
          by_cases hfetched : call.fetched = true
          · simp only [hfetched, if_true] at h ⊢
            split at h
            · rename_i hrolledBack
              exact ⟨settings, rows, evaluated_of_answer hanswer, (Option.some.inj h).symm,
                rollback_fst hrolledBack⟩
            · cases h
          · simp [hfetched] at h

/-- The query is evaluated under the tenant of the call's own principal. -/
theorem selected_own {settings : Settings} {rows : List Row}
    (h : (retrieve session call).selected = some (settings, rows)) :
    settings.get? principalSetting = some (tenantOf call.request.principal) ∧
      rows = call.rows settings call.request.vector call.request.limit := by
  rcases selected_retrieve h with ⟨⟨value, hassigned⟩, hselected⟩
  rcases evaluated_after hassigned hselected with ⟨before, hvalue⟩
  cases hvalue
  refine ⟨?_, rfl⟩
  rw [setConfig, Dict.get?_set, if_pos rfl]

/-! ## Runs of retrievals -/

/-- The query of a retrieval, whenever the store evaluates it, is evaluated under the tenant of
its own principal, and a retrieval that returns leaves no setting behind. -/
structure Isolated (call : Call Vector) (outcome : Outcome) : Prop where
  own : ∀ settings rows, outcome.selected = some (settings, rows) →
    settings.get? principalSetting = some (tenantOf call.request.principal)
  cleared : ∀ ids, outcome.returned = some ids → outcome.session = .idle

/-- Whatever the session was used for before, a retrieval is isolated. -/
theorem isolated_retrieve (session : Session Settings) (call : Call Vector) :
    Isolated call (retrieve session call) where
  own settings rows h := (selected_own h).1
  cleared ids h := by
    rcases returned_retrieve h with ⟨settings, rows, -, -, hidle⟩
    exact hidle

/-- In every sequence of retrievals, whatever fails or is interrupted in them, each is
isolated. -/
theorem identities_isolated (session : Session Settings) (calls : List (Call Vector)) :
    List.Forall₂ Isolated calls (retrieves session calls) := by
  induction calls generalizing session with
  | nil => exact .nil
  | cons call calls ih => exact .cons (isolated_retrieve session call) (ih _)

/-- A policy that reads nothing but the principal's setting gives a retrieval that returns the
same ids on every session. -/
theorem retrieve_eq_of_returned
    (hpolicy : ∀ settings settings' : Settings,
      settings.get? principalSetting = settings'.get? principalSetting →
        call.rows settings = call.rows settings')
    {session' : Session Settings} {ids ids' : List String}
    (h : (retrieve session call).returned = some ids)
    (h' : (retrieve session' call).returned = some ids') : ids = ids' := by
  rcases returned_retrieve h with ⟨settings, rows, hselected, rfl, -⟩
  rcases returned_retrieve h' with ⟨settings', rows', hselected', rfl, -⟩
  rcases selected_own hselected with ⟨hown, rfl⟩
  rcases selected_own hselected' with ⟨hown', rfl⟩
  rw [hpolicy settings settings' (hown.trans hown'.symm)]

/-! ## Which retrievals return -/

/-- Every step of the retrieval is taken and known to be. -/
structure Call.Completes (call : Call Vector) : Prop where
  assigned : call.assigning = .answered
  selected : call.selecting = .answered
  fetched : call.fetched = true
  rolledBack : call.rollingBack = .answered

/-- A statement of the retrieval fails in the store. -/
def Call.Fails (call : Call Vector) : Prop :=
  call.assigning = .refused ∨ call.assigning = .answered ∧ call.selecting = .refused

/-- The first statement is answered exactly when it runs outside an aborted transaction. -/
theorem assigned_answer_eq_none_iff :
    (assigned session call).answer = none ↔ session = .aborted ∨ call.assigning ≠ .answered := by
  rw [← Option.not_isSome_iff_eq_none, assigned, answer_execute_isSome_iff]
  tauto

/-- Once it is answered there is a transaction that is not aborted. -/
theorem session_assigned_ne_aborted (h : (assigned session call).answer ≠ none) :
    (assigned session call).session ≠ .aborted := by
  rw [ne_eq, assigned_answer_eq_none_iff, not_or, not_not] at h
  rw [assigned, ne_eq, session_execute_eq_aborted_iff, h.2]
  simp [h.1]

/-- A retrieval leaves an aborted transaction exactly when it was given one or fails itself. -/
theorem session_retrieve_eq_aborted_iff :
    (retrieve session call).session = .aborted ↔ session = .aborted ∨ call.Fails := by
  unfold retrieve Call.Fails
  cases hassigned : (assigned session call).answer with
  | none =>
      have hnone := assigned_answer_eq_none_iff.mp hassigned
      dsimp only
      rw [assigned, session_execute_eq_aborted_iff]
      tauto
  | some value =>
      have hsome : (assigned session call).answer ≠ none := by simp [hassigned]
      have hsession := session_assigned_ne_aborted hsome
      rw [ne_eq, assigned_answer_eq_none_iff, not_or, not_not] at hsome
      have hselected : (selected session call).session = .aborted ↔ call.selecting = .refused := by
        rw [selected, session_execute_eq_aborted_iff, or_iff_right hsession]
      have hfails : (session = .aborted ∨ call.assigning = .refused ∨
          call.assigning = .answered ∧ call.selecting = .refused) ↔ call.selecting = .refused := by
        simp [hsome.1, hsome.2]
      rw [hfails]
      dsimp only
      cases hanswer : (selected session call).answer with
      | none => exact hselected
      | some answer =>
          have hanswered : call.selecting = .answered :=
            (answer_execute_isSome_iff.mp (Option.isSome_iff_exists.mpr ⟨answer, hanswer⟩)).2
          rw [hanswered] at hselected ⊢
          have hopen : (selected session call).session ≠ .aborted := by simp [hselected]
          dsimp only
          split
          · simp [rollback_fst_ne_aborted hopen]
          · simp [hopen]

/-- A retrieval returns exactly when it was not given an aborted transaction and completes. -/
theorem returned_retrieve_isSome_iff :
    (retrieve session call).returned.isSome = true ↔ session ≠ .aborted ∧ call.Completes := by
  unfold retrieve
  cases hassigned : (assigned session call).answer with
  | none =>
      have hnone := assigned_answer_eq_none_iff.mp hassigned
      simp only [Option.isSome_none, Bool.false_eq_true, false_iff, not_and]
      intro hsession hcompletes
      exact hnone.elim hsession fun hassigning => hassigning hcompletes.assigned
  | some value =>
      have hsome : (assigned session call).answer ≠ none := by simp [hassigned]
      have hsession := session_assigned_ne_aborted hsome
      rw [ne_eq, assigned_answer_eq_none_iff, not_or, not_not] at hsome
      have hselected : (selected session call).answer.isSome = true ↔
          call.selecting = .answered := by
        rw [selected, answer_execute_isSome_iff, and_iff_right hsession]
      dsimp only
      cases hanswer : (selected session call).answer with
      | none =>
          rw [hanswer] at hselected
          simp only [Option.isSome_none, Bool.false_eq_true, false_iff] at hselected ⊢
          exact fun hreturns => hselected hreturns.2.selected
      | some answer =>
          have hanswered : call.selecting = .answered := hselected.mp (by simp [hanswer])
          have hcompletes : session ≠ .aborted ∧ call.Completes ↔
              call.fetched = true ∧ call.rollingBack = .answered :=
            ⟨fun h => ⟨h.2.fetched, h.2.rolledBack⟩,
              fun h => ⟨hsome.1, hsome.2, hanswered, h.1, h.2⟩⟩
          rw [hcompletes]
          dsimp only
          have hrollback : ((selected session call).session.rollback call.rollingBack).2 = true ↔
              call.rollingBack = .answered := rollback_snd_iff
          by_cases hfetched : call.fetched = true
          · rw [if_pos hfetched, and_iff_right hfetched, ← hrollback]
            dsimp only
            split_ifs with hrolledBack
            · simp [hrolledBack]
            · simp [hrolledBack]
          · simp [hfetched]

/-- In a sequence of retrievals each returns exactly when it completes and none before it has
failed, as nothing rolls a failed statement back. -/
theorem returned_retrieves_iff (session : Session Settings) {calls : List (Call Vector)} {n : Nat}
    {call : Call Vector} {outcome : Outcome} (hcall : calls[n]? = some call)
    (houtcome : (retrieves session calls)[n]? = some outcome) :
    outcome.returned.isSome = true ↔
      session ≠ .aborted ∧ call.Completes ∧ ∀ earlier ∈ calls.take n, ¬ earlier.Fails := by
  induction calls generalizing session n with
  | nil => cases hcall
  | cons first calls ih =>
      cases n with
      | zero =>
          cases hcall
          cases houtcome
          rw [returned_retrieve_isSome_iff]
          simp
      | succ n =>
          rw [ih _ hcall houtcome, ne_eq, session_retrieve_eq_aborted_iff, List.take_succ_cons,
            List.forall_mem_cons]
          tauto

/-- A reader's request, of which only the query may fail. -/
def readerCall (selecting : Fate) : Call Unit where
  request :=
    { vector := ()
      principal := { id := "p-reader", label := "Reader", tenant := some "acme" }
      limit := 10 }
  rows _ _ _ := [⟨"c-payroll"⟩]
  assigning := .answered
  selecting := selecting
  fetched := true
  rollingBack := .answered

theorem returned_retrieves_iff_refused :
    ({ session := .aborted, selected := none, returned := none } : Outcome).returned.isSome = true ↔
      (.idle : Session Settings) ≠ .aborted ∧ (readerCall .answered).Completes ∧
        ∀ earlier ∈ [readerCall .refused, readerCall .answered].take 1, ¬ earlier.Fails :=
  returned_retrieves_iff .idle
    (rfl : [readerCall .refused, readerCall .answered][1]? = some (readerCall .answered)) rfl

end PgVector

end Tearline
