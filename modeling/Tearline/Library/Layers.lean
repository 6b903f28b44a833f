import Mathlib.Data.List.Basic

/-!
# Layered settings

A setting is stated in layers, each of which overrides the layers beneath it.  A layer may say
nothing of the setting, leave it blank, or list entries.  Listed entries are added to those
beneath, whereas a blank takes the place of whatever is beneath.

Main results:

- Theorem {lit}`Layers.isSome_run_iff`: when the layers leave a list.
- Theorem {lit}`Layers.sublist_run_iff`: when none of the listed entries are lost.
- Theorem {lit}`Layers.leaves_run`: what they leave.
-/

/-- What one layer says of a setting. -/
inductive Layer (α : Type)
  | absent
  | blank
  | items (entries : List α)

namespace Layers

variable {α : Type}

/-- The setting with one more layer on top; a setting left blank has no entries. -/
def apply (layer : Layer α) (current : Option (List α)) : Option (List α) :=
  match layer with
  | .absent => current
  | .blank => none
  | .items entries => some (current.getD [] ++ entries)

/-- The setting under layers listed from the topmost down. -/
def run (base : List α) (layers : List (Layer α)) : Option (List α) :=
  layers.foldr apply (some base)

/-- The entries one layer lists. -/
def listed : Layer α → List α
  | .absent => []
  | .blank => []
  | .items entries => entries

/-- The entries the layers list, those of the lowest first. -/
def joined : List (Layer α) → List α
  | [] => []
  | layer :: beneath => joined beneath ++ listed layer

/-- Over every blank some layer lists entries again. -/
def Restated (layers : List (Layer α)) : Prop :=
  ∀ above beneath, layers = above ++ .blank :: beneath → ∃ entries, .items entries ∈ above

/-- Under every blank there are no entries. -/
def Unspoilt (base : List α) (layers : List (Layer α)) : Prop :=
  ∀ above beneath, layers = above ++ .blank :: beneath → base ++ joined beneath = []

/-! ## Blanks -/

/-- The blanks of layers are the topmost layer, if it is one, and those beneath. -/
private theorem forall_blank_cons_iff {P : List (Layer α) → List (Layer α) → Prop}
    (layer : Layer α) (layers : List (Layer α)) :
    (∀ above beneath, layer :: layers = above ++ .blank :: beneath → P above beneath) ↔
      (layer = .blank → P [] layers) ∧
        ∀ above beneath, layers = above ++ .blank :: beneath → P (layer :: above) beneath := by
  constructor
  · intro h
    constructor
    · intro hblank
      apply h [] layers
      rw [hblank, List.nil_append]
    · intro above beneath hlayers
      apply h (layer :: above) beneath
      rw [hlayers, List.cons_append]
  · intro h above beneath hlayers
    rcases List.cons_eq_append_iff.mp hlayers with ⟨rfl, hhead⟩ | ⟨rest, rfl, hrest⟩
    · rcases List.cons.inj hhead with ⟨hblank, rfl⟩
      exact h.1 hblank.symm
    · exact h.2 rest beneath hrest

theorem restated_nil : Restated ([] : List (Layer α)) := by
  intro above beneath h
  simp at h

theorem unspoilt_nil (base : List α) : Unspoilt base [] := by
  intro above beneath h
  simp at h

/-- A layer that lists entries restates the setting for all blanks beneath. -/
theorem restated_items (entries : List α) (layers : List (Layer α)) :
    Restated (.items entries :: layers) := by
  rw [Restated, forall_blank_cons_iff]
  constructor
  · intro hblank
    cases hblank
  · intro above beneath _
    exact ⟨entries, List.mem_cons_self⟩

theorem restated_absent_iff (layers : List (Layer α)) :
    Restated (.absent :: layers) ↔ Restated layers := by
  rw [Restated, forall_blank_cons_iff]
  simp [Restated]

/-- A blank on top is not restated. -/
theorem not_restated_blank (layers : List (Layer α)) : ¬ Restated (.blank :: layers) := by
  intro h
  rcases h [] layers rfl with ⟨entries, hentries⟩
  cases hentries

theorem unspoilt_cons_iff (base : List α) (layer : Layer α) (layers : List (Layer α)) :
    Unspoilt base (layer :: layers) ↔
      (layer = .blank → base ++ joined layers = []) ∧ Unspoilt base layers := by
  rw [Unspoilt, forall_blank_cons_iff]
  rfl

/-- Where there are no entries, no blank spoils any. -/
theorem unspoilt_of_joined_eq_nil {base : List α} {layers : List (Layer α)}
    (h : base ++ joined layers = []) : Unspoilt base layers := by
  induction layers with
  | nil => exact unspoilt_nil base
  | cons layer layers ih =>
      have hbeneath : base ++ joined layers = [] := by
        rw [joined, ← List.append_assoc] at h
        exact (List.append_eq_nil_iff.mp h).1
      rw [unspoilt_cons_iff]
      exact ⟨fun _ => hbeneath, ih hbeneath⟩

/-! ## What is left of a setting -/

/-- The layers leave a list exactly when every blank is restated. -/
theorem isSome_run_iff (base : List α) (layers : List (Layer α)) :
    (run base layers).isSome ↔ Restated layers := by
  induction layers with
  | nil => simp [run, restated_nil]
  | cons layer layers ih =>
      cases layer with
      | absent =>
          rw [restated_absent_iff, ← ih]
          rfl
      | blank => exact iff_of_false (by simp [run, apply]) (not_restated_blank layers)
      | items entries => exact iff_of_true rfl (restated_items entries layers)

/-- What is left holds the upper entries of the base and all listed entries in order exactly
when there are none of them under a blank. -/
theorem sublist_run_iff (lower upper : List α) (layers : List (Layer α)) :
    (upper ++ joined layers).Sublist ((run (lower ++ upper) layers).getD []) ↔
      Unspoilt upper layers := by
  induction layers with
  | nil => simp [run, joined, unspoilt_nil]
  | cons layer layers ih =>
      rw [unspoilt_cons_iff]
      cases layer with
      | absent => simpa [run, apply, joined, listed] using ih
      | blank =>
          have hleft : ((run (lower ++ upper) (.blank :: layers)).getD []) = [] := rfl
          rw [hleft, joined, listed, List.append_nil, List.sublist_nil]
          constructor
          · intro h
            exact ⟨fun _ => h, unspoilt_of_joined_eq_nil h⟩
          · intro h
            exact h.1 rfl
      | items entries =>
          have hleft : (run (lower ++ upper) (.items entries :: layers)).getD [] =
              (run (lower ++ upper) layers).getD [] ++ entries := rfl
          rw [hleft, joined, listed, ← List.append_assoc, List.append_sublist_append_right, ih]
          simp

/-- What layers over a list leave of it: without a blank all lists in order, else the lists over
the topmost blank, and nothing where there are none. -/
inductive Leaves (base : List α) : List (Layer α) → Option (List α) → Prop
  | whole {layers : List (Layer α)} (hwhole : .blank ∉ layers) :
      Leaves base layers (some (base ++ joined layers))
  | restated {above beneath : List (Layer α)} (habove : .blank ∉ above)
      (hlisted : ∃ entries, .items entries ∈ above) :
      Leaves base (above ++ .blank :: beneath) (some (joined above))
  | blanked {above beneath : List (Layer α)} (habove : ∀ layer ∈ above, layer = .absent) :
      Leaves base (above ++ .blank :: beneath) none

theorem joined_of_absent {layers : List (Layer α)} (h : ∀ layer ∈ layers, layer = .absent) :
    joined layers = [] := by
  induction layers with
  | nil => rfl
  | cons layer layers ih =>
      rw [List.forall_mem_cons] at h
      rw [joined, ih h.2, h.1]
      rfl

/-- A layer that says nothing leaves what those beneath leave. -/
theorem leaves_absent {base : List α} {layers : List (Layer α)} {left : Option (List α)}
    (h : Leaves base layers left) : Leaves base (.absent :: layers) left := by
  cases h with
  | whole hwhole =>
      have hjoined : joined (.absent :: layers) = joined layers := List.append_nil _
      rw [← hjoined]
      exact .whole (by simpa using hwhole)
  | @restated above beneath habove hlisted =>
      have hjoined : joined (.absent :: above) = joined above := List.append_nil _
      rw [← hjoined]
      rcases hlisted with ⟨entries, hentries⟩
      exact @Leaves.restated _ _ (.absent :: above) _ (by simpa using habove)
        ⟨entries, List.mem_cons_of_mem _ hentries⟩
  | @blanked above beneath habove =>
      exact @Leaves.blanked _ _ (.absent :: above) _ (List.forall_mem_cons.mpr ⟨rfl, habove⟩)

/-- A layer that lists entries adds them to what those beneath leave. -/
theorem leaves_items {base : List α} {layers : List (Layer α)} {left : Option (List α)}
    (entries : List α) (h : Leaves base layers left) :
    Leaves base (.items entries :: layers) (some (left.getD [] ++ entries)) := by
  cases h with
  | whole hwhole =>
      rw [Option.getD_some, List.append_assoc]
      exact .whole (by simpa using hwhole)
  | @restated above beneath habove hlisted =>
      exact @Leaves.restated _ _ (.items entries :: above) _ (by simpa using habove)
        ⟨entries, List.mem_cons_self⟩
  | @blanked above beneath habove =>
      have hjoined : joined (.items entries :: above) = [] ++ entries := by
        rw [joined, joined_of_absent habove]
        rfl
      rw [Option.getD_none, ← hjoined]
      refine @Leaves.restated _ _ (.items entries :: above) _ (fun hblank => ?_)
        ⟨entries, List.mem_cons_self⟩
      rcases List.mem_cons.mp hblank with hitems | hmem
      · cases hitems
      · cases habove _ hmem

/-- What the layers leave. -/
theorem leaves_run (base : List α) (layers : List (Layer α)) :
    Leaves base layers (run base layers) := by
  induction layers with
  | nil =>
      have hjoined : run base [] = some (base ++ joined []) := by simp [run, joined]
      rw [hjoined]
      exact .whole List.not_mem_nil
  | cons layer layers ih =>
      cases layer with
      | absent => exact leaves_absent ih
      | blank => exact @Leaves.blanked _ _ [] _ fun _ hmem => absurd hmem List.not_mem_nil
      | items entries => exact leaves_items entries ih

end Layers
