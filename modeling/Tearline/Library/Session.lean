import Mathlib.Logic.Basic

/-!
# Sessions with settings local to a transaction

A session outside autocommit opens a transaction with the first statement it is given.  Settings
made local to the transaction hold until it ends, and once a statement has failed every further
one fails until the transaction is rolled back.  A client may be interrupted at any point of a
statement.

Main results:

- Theorem {lit}`Session.exists_locals_of_evaluated`: under which settings a statement is evaluated.
- Theorem {lit}`Session.evaluated_after`: what is evaluated after an answered statement sees the
  settings that one left.
- Theorem {lit}`Session.execute_aborted`: an aborted transaction evaluates and answers nothing.
- Theorems {lit}`Session.session_execute_eq_aborted_iff` and
  {lit}`Session.answer_execute_isSome_iff`: when a statement aborts, and when it is answered.
-/

/-- A session: without a transaction, in one with its local settings, or in one that has failed. -/
inductive Session (σ : Type)
  | idle
  | active (locals : σ)
  | aborted

namespace Session

/-- What becomes of a statement. -/
inductive Fate
  /-- The client is interrupted before the store is reached. -/
  | unsent
  /-- The client is interrupted when only the transaction is open. -/
  | begun
  /-- The statement fails. -/
  | refused
  /-- The statement runs, and the client is interrupted before it has the answer. -/
  | unanswered
  /-- The statement runs and is answered. -/
  | answered
deriving DecidableEq, Repr

/-- What a statement evaluates to under the local settings, and the settings it leaves. -/
abbrev Statement (σ α : Type) := σ → α × σ

/-- A statement that was given to a session: what the store evaluated it to, if it did, and what
the client was answered, if it was. -/
structure Execution (σ α : Type) where
  session : Session σ
  evaluated : Option α
  answer : Option α

variable {σ α β : Type} [EmptyCollection σ]

/-- The session with a transaction open; a new one has no local settings. -/
def opened : Session σ → Session σ
  | idle => active ∅
  | active locals => active locals
  | aborted => aborted

/-- Evaluate a statement in the open transaction. -/
def evaluate (session : Session σ) (statement : Statement σ α) : Session σ × Option α :=
  match session with
  | idle => (idle, none)
  | active locals => (active (statement locals).2, some (statement locals).1)
  | aborted => (aborted, none)

/-- Give a statement to the session. -/
def execute (session : Session σ) (fate : Fate) (statement : Statement σ α) : Execution σ α :=
  match fate with
  | .unsent => { session := session, evaluated := none, answer := none }
  | .begun => { session := session.opened, evaluated := none, answer := none }
  | .refused => { session := aborted, evaluated := none, answer := none }
  | .unanswered =>
      let (session, value) := session.opened.evaluate statement
      { session := session, evaluated := value, answer := none }
  | .answered =>
      let (session, value) := session.opened.evaluate statement
      { session := session, evaluated := value, answer := value }

/-- End the transaction, and whether the client gets to know. -/
def rollback (session : Session σ) (fate : Fate) : Session σ × Bool :=
  match fate with
  | .unsent => (session, false)
  | .begun => (session, false)
  | .refused => (session, false)
  | .unanswered => (idle, false)
  | .answered => (idle, true)

/-! ## One statement -/

variable {session : Session σ} {fate : Fate} {statement : Statement σ α}

omit [EmptyCollection σ] in
private theorem exists_locals_of_evaluate {value : α}
    (h : (session.evaluate statement).2 = some value) :
    ∃ locals, session = active locals ∧ value = (statement locals).1 ∧
      (session.evaluate statement).1 = active (statement locals).2 := by
  cases session with
  | idle => cases h
  | active locals => exact ⟨locals, rfl, (Option.some.inj h).symm, rfl⟩
  | aborted => cases h

/-- A statement is evaluated under the local settings of the open transaction, which then are
those it leaves. -/
theorem exists_locals_of_evaluated {value : α}
    (h : (session.execute fate statement).evaluated = some value) :
    ∃ locals, session.opened = active locals ∧ value = (statement locals).1 ∧
      (session.execute fate statement).session = active (statement locals).2 := by
  cases fate with
  | unsent => cases h
  | begun => cases h
  | refused => cases h
  | unanswered => exact exists_locals_of_evaluate h
  | answered => exact exists_locals_of_evaluate h

/-- What is answered has been evaluated. -/
theorem evaluated_of_answer {value : α}
    (h : (session.execute fate statement).answer = some value) :
    (session.execute fate statement).evaluated = some value := by
  cases fate with
  | answered => exact h
  | _ => cases h

/-- A transaction that is open stays open as it is. -/
theorem opened_active (locals : σ) : (active locals).opened = active locals :=
  rfl

/-- What is evaluated after an answered statement sees the settings that one left, whatever the
session was before. -/
theorem evaluated_after {first : Statement σ α} {second : Statement σ β} {fate' : Fate}
    {a : α} {b : β} (hfirst : (session.execute fate first).answer = some a)
    (hsecond : ((session.execute fate first).session.execute fate' second).evaluated = some b) :
    ∃ locals, b = (second (first locals).2).1 := by
  rcases exists_locals_of_evaluated (evaluated_of_answer hfirst) with ⟨locals, -, -, hsession⟩
  rcases exists_locals_of_evaluated hsecond with ⟨locals', hopened, hvalue, -⟩
  rw [hsession, opened_active] at hopened
  cases hopened
  exact ⟨locals, hvalue⟩

/-- An aborted transaction evaluates and answers nothing and stays aborted. -/
theorem execute_aborted (fate : Fate) (statement : Statement σ α) :
    (aborted : Session σ).execute fate statement =
      { session := aborted, evaluated := none, answer := none } := by
  cases fate <;> rfl

/-- A statement leaves an aborted transaction exactly when it is given to one or fails. -/
theorem session_execute_eq_aborted_iff :
    (session.execute fate statement).session = aborted ↔ session = aborted ∨ fate = .refused := by
  cases session with
  | aborted => simp [execute_aborted]
  | idle | active locals => cases fate <;> simp [execute, opened, evaluate]

/-- A statement is answered exactly when it is not given to an aborted transaction and runs to the
client's knowledge. -/
theorem answer_execute_isSome_iff :
    (session.execute fate statement).answer.isSome = true ↔
      session ≠ aborted ∧ fate = .answered := by
  cases session with
  | aborted => simp [execute_aborted]
  | idle | active locals => cases fate <;> simp [execute, opened, evaluate]

omit [EmptyCollection σ] in
/-- After a rollback that is known of there is no transaction. -/
theorem rollback_fst (h : (session.rollback fate).2 = true) :
    (session.rollback fate).1 = idle := by
  cases fate with
  | answered => rfl
  | _ => cases h

omit [EmptyCollection σ] in
/-- A rollback is known of exactly when it is answered. -/
theorem rollback_snd_iff : (session.rollback fate).2 = true ↔ fate = .answered := by
  cases fate <;> simp [rollback]

omit [EmptyCollection σ] in
/-- A rollback aborts no transaction. -/
theorem rollback_fst_ne_aborted (h : session ≠ aborted) :
    (session.rollback fate).1 ≠ aborted := by
  cases fate <;> simp [rollback, h]

end Session
