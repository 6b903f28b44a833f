import Mathlib.Data.List.Forall2
import Tearline.Library.Loop

/-!
# Dialogues with a partner that has a state

A program asks a partner one question after another.  The partner answers from a state of its
own, which the question may change, or gives no answer and so ends the program.

Main results:

- Theorem {lit}`Dialogue.append_iff`: a dialogue on two runs of questions falls into two.
- Theorem {lit}`Dialogue.foldlM_append_eq_ok_iff`: a loop that asks completes exactly when there
  is a dialogue.
- Theorem {lit}`Dialogue.eq_mapIdx_of_step`: the answers of a partner who counts.
-/

/-- A partner: what it answers to a question from a state, and the state it is in afterwards. -/
abbrev Partner (σ ι α ε : Type) :=
  ι → StateT σ (Except ε) α

/-- The questions are asked in turn, each is answered, and the partner ends in a state. -/
inductive Dialogue {σ ι α ε : Type} (partner : Partner σ ι α ε) :
    σ → List ι → List α → σ → Prop
  | nil (s : σ) : Dialogue partner s [] [] s
  | cons {s next last : σ} {i : ι} {a : α} {is : List ι} {as : List α}
      (hanswer : partner i s = .ok (a, next)) (hrest : Dialogue partner next is as last) :
      Dialogue partner s (i :: is) (a :: as) last

namespace Dialogue

section Steps

variable {σ α β ε : Type} {s : σ}

/-- A sequenced computation on a state succeeds exactly when both of its steps do. -/
theorem bind_eq_ok {x : StateT σ (Except ε) α} {f : α → StateT σ (Except ε) β} {r : β × σ} :
    (x >>= f) s = .ok r ↔ ∃ a next, x s = .ok (a, next) ∧ f a next = .ok r := by
  have hunfold : (x >>= f) s = (x s >>= fun p => f p.1 p.2) := rfl
  rw [hunfold, Loop.bind_eq_ok]
  simp only [Prod.exists]

/-- Returning a value leaves the state as it is. -/
theorem pure_eq_ok {a : α} {r : α × σ} :
    (pure a : StateT σ (Except ε) α) s = .ok r ↔ r = (a, s) := by
  have hunfold : (pure a : StateT σ (Except ε) α) s = .ok (a, s) := rfl
  rw [hunfold, Except.ok.injEq, eq_comm]

end Steps

variable {σ ι κ α β ε : Type} {partner : Partner σ ι α ε} {s last : σ} {is : List ι} {as : List α}

@[simp]
theorem nil_iff : Dialogue partner s [] as last ↔ as = [] ∧ last = s := by
  constructor
  · intro hdialogue
    cases hdialogue
    exact ⟨rfl, rfl⟩
  · intro hempty
    rcases hempty with ⟨rfl, rfl⟩
    exact Dialogue.nil _

theorem cons_iff {i : ι} :
    Dialogue partner s (i :: is) as last ↔
      ∃ a next rest, partner i s = .ok (a, next) ∧ Dialogue partner next is rest last ∧
        as = a :: rest := by
  constructor
  · intro hdialogue
    cases hdialogue with
    | cons hanswer hrest => exact ⟨_, _, _, hanswer, hrest, rfl⟩
  · intro hparts
    rcases hparts with ⟨a, next, rest, hanswer, hrest, rfl⟩
    exact Dialogue.cons hanswer hrest

/-- A dialogue on two runs of questions falls into two, the second from where the first ends. -/
theorem append_iff {js : List ι} :
    Dialogue partner s (is ++ js) as last ↔
      ∃ middle front back, Dialogue partner s is front middle ∧
        Dialogue partner middle js back last ∧ as = front ++ back := by
  induction is generalizing s as with
  | nil => simp
  | cons i is ih =>
      rw [List.cons_append, cons_iff]
      simp only [ih, cons_iff]
      constructor
      · intro hparts
        rcases hparts with ⟨a, next, _, hanswer, ⟨middle, front, back, hfront, hback, rfl⟩, rfl⟩
        exact ⟨middle, a :: front, back, ⟨a, next, front, hanswer, hfront, rfl⟩, hback, rfl⟩
      · intro hparts
        rcases hparts with ⟨middle, _, back, ⟨a, next, front, hanswer, hfront, rfl⟩, hback, rfl⟩
        exact ⟨a, next, _, hanswer, ⟨middle, front, back, hfront, hback, rfl⟩, rfl⟩

/-- Every question has its answer. -/
theorem length_eq (h : Dialogue partner s is as last) : as.length = is.length := by
  induction h with
  | nil => rfl
  | cons _ _ ih => rw [List.length_cons, List.length_cons, ih]

/-- A dialogue in questions that stand for others is one with a partner who is asked these. -/
theorem map_iff {f : κ → ι} {ks : List κ} :
    Dialogue partner s (ks.map f) as last ↔ Dialogue (fun k => partner (f k)) s ks as last := by
  induction ks generalizing s as with
  | nil => simp
  | cons k ks ih =>
      rw [List.map_cons, cons_iff, cons_iff]
      simp only [ih]

/-! ## Records -/

/-- The answer on record to the question of a number. -/
def recorded [Inhabited α] (as : List α) (n : Nat) : α :=
  as.getD n default

/-! ## Loops -/

/-- A loop that asks a question for each item and appends the answer completes exactly when all
the questions are answered in turn. -/
theorem foldlM_append_eq_ok_iff {step : List α → ι → StateT σ (Except ε) (List α)}
    (hstep : ∀ out i s, step out i s = (partner i s).map fun p => (out ++ [p.1], p.2))
    (is : List ι) (out out' : List α) (s last : σ) :
    is.foldlM step out s = .ok (out', last) ↔
      ∃ as, Dialogue partner s is as last ∧ out' = out ++ as := by
  induction is generalizing out s with
  | nil =>
      have hpure : ([] : List ι).foldlM step out s = .ok (out, s) := rfl
      rw [hpure, Except.ok.injEq, Prod.mk.injEq]
      simp [and_comm, eq_comm]
  | cons i is ih =>
      have hunfold : (i :: is).foldlM step out s =
          (step out i s >>= fun p => is.foldlM step p.1 p.2) := rfl
      rw [hunfold, hstep]
      simp only [Loop.bind_eq_ok, Loop.map_eq_ok, Prod.exists, Prod.mk.injEq, cons_iff]
      constructor
      · intro hruns
        rcases hruns with ⟨_, _, ⟨a, next, hanswer, rfl, rfl⟩, hrest⟩
        rcases (ih _ _).mp hrest with ⟨rest, hdialogue, rfl⟩
        exact ⟨a :: rest, ⟨a, next, rest, hanswer, hdialogue, rfl⟩, by simp⟩
      · intro hanswered
        rcases hanswered with ⟨_, ⟨a, next, rest, hanswer, hdialogue, rfl⟩, rfl⟩
        exact ⟨_, next, ⟨a, next, hanswer, rfl, rfl⟩, (ih _ _).mpr ⟨rest, hdialogue, by simp⟩⟩

/-! ## Answers that are known -/

/-- If every answer is a function of the question and of how many were answered before, so are the
answers of a dialogue. -/
theorem eq_mapIdx_of_step (count : σ → Nat) (f : Nat → ι → α)
    (hstep : ∀ i s a next, partner i s = .ok (a, next) →
      a = f (count s) i ∧ count next = count s + 1)
    (h : Dialogue partner s is as last) :
    as = is.mapIdx fun n i => f (count s + n) i := by
  induction h with
  | nil => rfl
  | cons hanswer _ ih =>
      rcases hstep _ _ _ _ hanswer with ⟨rfl, hcount⟩
      rw [List.mapIdx_cons, ih, hcount]
      simp only [Nat.add_zero, Nat.add_assoc, Nat.add_comm 1]

end Dialogue
