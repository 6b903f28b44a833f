import Mathlib.Data.List.Induction
import Mathlib.Data.List.Perm.Basic
import Mathlib.Order.Bounds.Basic
import Mathlib.Order.BoundedOrder.Basic

/-!
# Running meets that start afresh at the bottom

A running meet that passes over a bottom operand also starts afresh once it has reached the
bottom: what has been met so far is forgotten.  Such a fold is not associative, and what it
arrives at can depend on the order of its operands.

Main results:

- Theorem {lit}`RunningMeet.isGLB_running`: operands that share something give their meet.
- Theorem {lit}`RunningMeet.exists_segments`: every fold is a series of collapses and a rest.
- Theorem {lit}`RunningMeet.le_running_iff`: what is below a running meet is what the rest
  leaves standing.
- Theorem {lit}`RunningMeet.running_perm_iff`: when a running meet does not depend on the
  order of its operands.
-/

namespace RunningMeet

variable {α : Type} [SemilatticeInf α] [OrderBot α]

/-! ## Lists that share something and lists that collapse -/

/-- Something other than the bottom is below every element of the list. -/
def Shares (xs : List α) : Prop :=
  ∃ c, c ≠ ⊥ ∧ ∀ x ∈ xs, c ≤ x

/-- The list shares nothing, and its elements before the last one do. -/
def Collapses (xs : List α) : Prop :=
  ∃ init last, xs = init ++ [last] ∧ init ≠ [] ∧ Shares init ∧ ¬ Shares xs

/-- The list can be divided into groups that collapse, at least one of them, and a group that
shares something. -/
def Divides (xs : List α) : Prop :=
  ∃ groups rest, groups ≠ [] ∧ (∀ g ∈ groups, Collapses g) ∧ rest ≠ [] ∧ Shares rest ∧
    (groups.flatten ++ rest).Perm xs

/-- The list is a series of groups that collapse and a last group that is above the element. -/
def Standing (xs : List α) (c : α) : Prop :=
  ∃ (groups : List (List α)) (rest : List α), xs = groups.flatten ++ rest ∧
    (∀ g ∈ groups, Collapses g) ∧ rest ≠ [] ∧ ∀ x ∈ rest, c ≤ x

theorem Shares.of_subset {xs ys : List α} (hys : Shares ys) (hsub : xs ⊆ ys) : Shares xs := by
  rcases hys with ⟨c, hc, hle⟩
  exact ⟨c, hc, fun x hx => hle x (hsub hx)⟩

theorem Divides.perm {xs ys : List α} (hys : Divides ys) (hperm : ys.Perm xs) : Divides xs := by
  rcases hys with ⟨groups, rest, hgroups, hcollapse, hne, hrest, hall⟩
  exact ⟨groups, rest, hgroups, hcollapse, hne, hrest, hall.trans hperm⟩

/-- Every list is a series of lists that collapse and a rest that shares something, if there
is a rest. -/
theorem exists_segments {xs : List α} (hxs : ∀ x ∈ xs, x ≠ ⊥) :
    ∃ (groups : List (List α)) (rest : List α), xs = groups.flatten ++ rest ∧
      (∀ g ∈ groups, Collapses g) ∧ (rest ≠ [] → Shares rest) := by
  induction xs using List.reverseRecOn with
  | nil => exact ⟨[], [], rfl, by simp, fun h => absurd rfl h⟩
  | append_singleton xs x ih =>
      rcases ih fun y hy => hxs y (by simp [hy]) with ⟨groups, rest, rfl, hcollapse, hrest⟩
      by_cases hshares : Shares (rest ++ [x])
      · exact ⟨groups, rest ++ [x], List.append_assoc _ _ _, hcollapse, fun _ => hshares⟩
      · have hne : rest ≠ [] := by
          rintro rfl
          exact hshares ⟨x, hxs x (by simp), by simp⟩
        refine ⟨groups ++ [rest ++ [x]], [], by simp, ?_, fun h => absurd rfl h⟩
        intro g hg
        rcases List.mem_append.mp hg with hg | hg
        · exact hcollapse g hg
        · rw [List.mem_singleton.mp hg]
          exact ⟨rest, x, rfl, hne, hrest hne, hshares⟩

/-! ## The running meet -/

variable [DecidableEq α]

/-- The meet of two elements, unless one of them is the bottom and is passed over. -/
def meet (a b : α) : α :=
  if a = ⊥ then b else if b = ⊥ then a else a ⊓ b

/-- The running meet of a list. -/
def running (xs : List α) : α :=
  xs.foldl meet ⊥

theorem meet_bot_left (a : α) : meet ⊥ a = a :=
  if_pos rfl

theorem meet_bot_right (a : α) : meet a ⊥ = a := by
  by_cases ha : a = ⊥
  · rw [ha, meet_bot_left]
  · rw [meet, if_neg ha, if_pos rfl]

theorem meet_of_ne_bot {a b : α} (ha : a ≠ ⊥) (hb : b ≠ ⊥) : meet a b = a ⊓ b := by
  rw [meet, if_neg ha, if_neg hb]

theorem meet_le_right {a b : α} (hb : b ≠ ⊥) : meet a b ≤ b := by
  by_cases ha : a = ⊥
  · rw [ha, meet_bot_left]
  · rw [meet_of_ne_bot ha hb]
    exact inf_le_right

theorem running_append_singleton (xs : List α) (x : α) :
    running (xs ++ [x]) = meet (running xs) x := by
  simp [running]

/-- A list after a collapse is folded on its own. -/
theorem running_append_of_bot {xs : List α} (hxs : running xs = ⊥) (ys : List α) :
    running (xs ++ ys) = running ys := by
  rw [running] at hxs
  rw [running, List.foldl_append, hxs, running]

/-- Bottom operands are passed over. -/
theorem running_filter (xs : List α) : running (xs.filter (· ≠ ⊥)) = running xs := by
  induction xs using List.reverseRecOn with
  | nil => rfl
  | append_singleton xs x ih =>
      rw [List.filter_append, running_append_singleton, ← ih]
      by_cases hx : x = ⊥
      · simp [hx, meet_bot_right]
      · rw [← running_append_singleton]
        simp [hx]

/-- The running meet of operands that share something is their meet. -/
theorem isGLB_running {xs : List α} (hxs : ∀ x ∈ xs, x ≠ ⊥) (hne : xs ≠ [])
    (hshares : Shares xs) : IsGLB {x | x ∈ xs} (running xs) ∧ running xs ≠ ⊥ := by
  induction xs using List.reverseRecOn with
  | nil => exact absurd rfl hne
  | append_singleton xs x ih =>
      have hx : x ≠ ⊥ := hxs x (by simp)
      rw [running_append_singleton]
      by_cases hempty : xs = []
      · subst hempty
        rw [show running ([] : List α) = ⊥ from rfl, meet_bot_left]
        exact ⟨by simp, hx⟩
      · have hinit := ih (fun y hy => hxs y (by simp [hy])) hempty
          (hshares.of_subset (List.subset_append_left xs [x]))
        rcases hinit with ⟨hglb, hrunning⟩
        rw [meet_of_ne_bot hrunning hx]
        have hboth : IsGLB {y | y ∈ xs ++ [x]} (running xs ⊓ x) := by
          have hset : {y | y ∈ xs ++ [x]} = {y | y ∈ xs} ∪ {x} := by
            ext y
            simp [or_comm]
          rw [hset]
          exact hglb.union isGLB_singleton
        refine ⟨hboth, fun hbot => ?_⟩
        rcases hshares with ⟨c, hc, hle⟩
        exact hc (le_bot_iff.mp (hbot ▸ hboth.2 hle))

/-- A list that collapses leaves nothing. -/
theorem running_of_collapses {xs : List α} (hxs : ∀ x ∈ xs, x ≠ ⊥) (hcollapses : Collapses xs) :
    running xs = ⊥ := by
  rcases hcollapses with ⟨init, last, rfl, hne, hinit, hnothing⟩
  have hlast : last ≠ ⊥ := hxs last (by simp)
  rcases isGLB_running (fun x hx => hxs x (by simp [hx])) hne hinit with ⟨hglb, hrunning⟩
  rw [running_append_singleton, meet_of_ne_bot hrunning hlast]
  by_contra hmeet
  refine hnothing ⟨_, hmeet, fun x hx => ?_⟩
  rcases List.mem_append.mp hx with hmem | hmem
  · exact inf_le_left.trans (hglb.1 hmem)
  · rw [List.mem_singleton.mp hmem]
    exact inf_le_right

/-- A series of lists that collapse leaves nothing. -/
theorem running_flatten {groups : List (List α)} (hgroups : ∀ g ∈ groups, ∀ x ∈ g, x ≠ ⊥)
    (hcollapse : ∀ g ∈ groups, Collapses g) : running groups.flatten = ⊥ := by
  induction groups with
  | nil => rfl
  | cons g groups ih =>
      rw [List.forall_mem_cons] at hgroups hcollapse
      rw [List.flatten_cons, running_append_of_bot (running_of_collapses hgroups.1 hcollapse.1)]
      exact ih hgroups.2 hcollapse.2

/-- What comes after a series of lists that collapse is folded on its own. -/
theorem running_segments {groups : List (List α)} {rest : List α}
    (hxs : ∀ x ∈ groups.flatten ++ rest, x ≠ ⊥) (hcollapse : ∀ g ∈ groups, Collapses g) :
    running (groups.flatten ++ rest) = running rest := by
  refine running_append_of_bot (running_flatten (fun g hg x hx => hxs x ?_) hcollapse) rest
  exact List.mem_append_left _ (List.mem_flatten.mpr ⟨g, hg, hx⟩)

/-- An element other than the bottom is below the running meet exactly when it is left standing
by the operands that are not the bottom. -/
theorem le_running_iff (xs : List α) {c : α} (hc : c ≠ ⊥) :
    c ≤ running xs ↔ Standing (xs.filter (· ≠ ⊥)) c := by
  have hne : ∀ x ∈ xs.filter (· ≠ ⊥), x ≠ ⊥ := by simp
  rw [← running_filter]
  constructor
  · intro hle
    rcases exists_segments hne with ⟨groups, rest, hsplit, hcollapse, hrest⟩
    rw [hsplit] at hne hle
    rw [running_segments hne hcollapse] at hle
    have hnonempty : rest ≠ [] := by
      rintro rfl
      exact hc (le_bot_iff.mp hle)
    have hglb := (isGLB_running (fun x hx => hne x (List.mem_append_right _ hx)) hnonempty
      (hrest hnonempty)).1
    exact ⟨groups, rest, hsplit, hcollapse, hnonempty, fun x hx => hle.trans (hglb.1 hx)⟩
  · intro hstanding
    rcases hstanding with ⟨groups, rest, hsplit, hcollapse, hnonempty, hbelow⟩
    rw [hsplit] at hne ⊢
    rw [running_segments hne hcollapse]
    exact (isGLB_running (fun x hx => hne x (List.mem_append_right _ hx)) hnonempty
      ⟨c, hc, hbelow⟩).1.2 hbelow

/-! ## Dependence on the order -/

/-- A list that cannot be divided and shares nothing leaves nothing. -/
theorem running_eq_bot {xs : List α} (hxs : ∀ x ∈ xs, x ≠ ⊥) (hwhole : ¬ Divides xs)
    (hnothing : ¬ Shares xs) : running xs = ⊥ := by
  rcases exists_segments hxs with ⟨groups, rest, rfl, hcollapse, hrest⟩
  by_cases hempty : rest = []
  · rw [hempty, List.append_nil]
    refine running_flatten (fun g hg x hx => hxs x ?_) hcollapse
    exact List.mem_append_left _ (List.mem_flatten.mpr ⟨g, hg, hx⟩)
  · by_cases hgroups : groups = []
    · subst hgroups
      exact absurd (hrest hempty) hnothing
    · exact absurd ⟨groups, rest, hgroups, hcollapse, hempty, hrest hempty, List.Perm.refl _⟩
        hwhole

/-- Operands that can be divided do not have the same running meet in every order. -/
theorem not_perm_of_divides {xs : List α} (hxs : ∀ x ∈ xs, x ≠ ⊥) (hdivides : Divides xs) :
    ¬ ∀ ys, ys.Perm xs → running ys = running xs := by
  intro hsame
  rcases hdivides with ⟨groups, rest, hgroups, hcollapse, hne, hrest, hperm⟩
  have hbelow : ∀ x ∈ xs, running xs ≤ x := by
    intro x hx
    have hlast : (xs.erase x ++ [x]).Perm xs :=
      (List.perm_append_singleton x _).trans (List.perm_cons_erase hx).symm
    rw [← hsame _ hlast, running_append_singleton]
    exact meet_le_right (hxs x hx)
  have hflatten : ∀ g ∈ groups, g ⊆ xs := fun g hg x hx =>
    hperm.subset (List.mem_append_left _ (List.mem_flatten.mpr ⟨g, hg, hx⟩))
  have hrunning : running xs = running rest := by
    rw [← hsame _ hperm]
    exact running_segments (fun x hx => hxs x (hperm.subset hx)) hcollapse
  have hbot : running xs ≠ ⊥ := by
    rw [hrunning]
    exact (isGLB_running
      (fun x hx => hxs x (hperm.subset (List.mem_append_right _ hx))) hne hrest).2
  rcases List.exists_mem_of_ne_nil _ hgroups with ⟨g, hg⟩
  rcases hcollapse g hg with ⟨-, -, -, -, -, hnothing⟩
  exact hnothing (Shares.of_subset ⟨_, hbot, hbelow⟩ (hflatten g hg))

/-- Operands other than the bottom that cannot be divided have the same running meet in every
order. -/
theorem running_perm_of_not_divides {xs ys : List α} (hxs : ∀ x ∈ xs, x ≠ ⊥)
    (hwhole : ¬ Divides xs) (hperm : ys.Perm xs) : running ys = running xs := by
  have hys : ∀ y ∈ ys, y ≠ ⊥ := fun y hy => hxs y (hperm.subset hy)
  by_cases hshares : Shares xs
  · by_cases hempty : xs = []
    · subst hempty
      rw [hperm.eq_nil]
    · have hne : ys ≠ [] := fun h => hempty (by simpa [h] using hperm)
      have hglb := (isGLB_running hys hne (hshares.of_subset hperm.subset)).1
      have hset : {y | y ∈ ys} = {x | x ∈ xs} := Set.ext fun x => hperm.mem_iff
      rw [hset] at hglb
      exact hglb.unique (isGLB_running hxs hempty hshares).1
  · have hnothing : ¬ Shares ys := fun h => hshares (h.of_subset hperm.symm.subset)
    rw [running_eq_bot hxs hwhole hshares,
      running_eq_bot hys (fun h => hwhole (h.perm hperm)) hnothing]

/-- A running meet does not depend on the order of its operands exactly when the operands
other than the bottom cannot be divided. -/
theorem running_perm_iff (xs : List α) :
    (∀ ys, ys.Perm xs → running ys = running xs) ↔ ¬ Divides (xs.filter (· ≠ ⊥)) := by
  have hne : ∀ x ∈ xs.filter (· ≠ ⊥), x ≠ ⊥ := by simp
  constructor
  · intro hsame hdivides
    apply not_perm_of_divides hne hdivides
    intro zs hperm
    have hzs : zs.filter (· ≠ ⊥) = zs :=
      List.filter_eq_self.mpr fun z hz => (List.mem_filter.mp (hperm.subset hz)).2
    have hall : (zs ++ xs.filter (¬ · ≠ ⊥)).Perm xs :=
      (hperm.append_right _).trans (by simpa using List.filter_append_perm (· ≠ ⊥) xs)
    have hrunning := hsame _ hall
    rw [← running_filter, List.filter_append, hzs] at hrunning
    rw [running_filter, ← hrunning]
    simp
  · intro hwhole ys hperm
    rw [← running_filter ys, ← running_filter xs]
    exact running_perm_of_not_divides hne hwhole (hperm.filter _)

end RunningMeet
