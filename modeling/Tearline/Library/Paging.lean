import Mathlib.Data.List.Basic

/-!
# Reading page by page

A store that holds a sequence of items hands it out in pages.  A page starts at the item a
cursor names, or at the first one, and names the first item that it leaves out.  How long a
page is, is up to the store, as long as it is not empty while there are items left.

Main results:

- Theorem {lit}`Paging.Serves.page_cases`: a page is a part of what is left, and names the
  rest.
-/

namespace Paging

variable {κ α : Type}

/-- A page: its items and the cursor of the first item left out, if there is one. -/
structure Page (κ α : Type) where
  items : List α
  next : Option κ

/-- The items from a cursor on; all of them from no cursor on. -/
def From (items : List (κ × α)) (cursor : Option κ) (rest : List (κ × α)) : Prop :=
  match cursor with
  | none => rest = items
  | some c => ∃ before item after, items = before ++ (c, item) :: after ∧
      rest = (c, item) :: after

/-- A store serves a sequence of items if each of its pages, whenever it is asked and for however
many items, is a beginning of what is left and names what follows it. -/
structure Serves (items : List (κ × α)) (serve : Nat → Nat → Option κ → Page κ α) : Prop where
  page : ∀ n limit cursor rest, 0 < limit → From items cursor rest →
    ∃ k ≤ limit, (serve n limit cursor).items = (rest.take k).map Prod.snd ∧
      (serve n limit cursor).next = (rest.drop k).head?.map Prod.fst
  progress : ∀ n limit cursor rest, 0 < limit → From items cursor rest → rest ≠ [] →
    (serve n limit cursor).items ≠ []

/-- What is left after some of the items that are left starts at the cursor of its first
item. -/
theorem From.append {items : List (κ × α)} {cursor : Option κ} {front back : List (κ × α)}
    {c : κ} {item : α} (h : From items cursor (front ++ (c, item) :: back)) :
    From items (some c) ((c, item) :: back) := by
  cases cursor with
  | none => exact ⟨front, item, back, h.symm, rfl⟩
  | some first =>
      rcases h with ⟨before, value, after, rfl, hrest⟩
      refine ⟨before ++ front, item, back, ?_, rfl⟩
      rw [← hrest, List.append_assoc]

/-- Of a single item all is left, wherever it is read from. -/
theorem From.of_singleton {item : κ × α} {cursor : Option κ} {rest : List (κ × α)}
    (h : From [item] cursor rest) : rest = [item] := by
  cases cursor with
  | none => exact h
  | some first =>
      rcases h with ⟨before, value, after, hitems, rfl⟩
      rw [eq_comm, List.append_eq_singleton_iff] at hitems
      rcases hitems with ⟨-, hitem⟩ | ⟨-, hnil⟩
      · exact hitem
      · cases hnil

/-- A page is a beginning of what is left; either nothing follows and no cursor is named, or
the page is not empty and the cursor names what follows. -/
theorem Serves.page_cases {items : List (κ × α)} {serve : Nat → Nat → Option κ → Page κ α}
    (hserves : Serves items serve) {limit : Nat} (hlimit : 0 < limit) {cursor : Option κ}
    {rest : List (κ × α)} (hrest : From items cursor rest) (n : Nat) :
    ∃ front back, rest = front ++ back ∧
      (serve n limit cursor).items = front.map Prod.snd ∧
      ((back = [] ∧ (serve n limit cursor).next = none) ∨
        front ≠ [] ∧ ∃ c, (serve n limit cursor).next = some c ∧ From items (some c) back) := by
  rcases hserves.page n limit cursor rest hlimit hrest with ⟨k, -, hitems, hnext⟩
  refine ⟨rest.take k, rest.drop k, (List.take_append_drop k rest).symm, hitems, ?_⟩
  cases hback : rest.drop k with
  | nil =>
      rw [hback] at hnext
      exact Or.inl ⟨rfl, hnext⟩
  | cons first back =>
      rw [hback] at hnext
      refine Or.inr ⟨?_, first.1, hnext, ?_⟩
      · intro hempty
        have hne : rest ≠ [] := by
          intro hnil
          rw [hnil, List.drop_nil] at hback
          cases hback
        apply hserves.progress n limit cursor rest hlimit hrest hne
        rw [hitems, hempty, List.map_nil]
      · rw [← List.take_append_drop k rest, hback] at hrest
        exact hrest.append

end Paging
