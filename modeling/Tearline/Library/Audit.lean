import Mathlib.Data.Set.Basic

/-!
# Differential audits

An audit compares what a reader was served with what a ground truth says about
each item.  The truth has three values: an item can be granted, denied, or left
undetermined because nothing is known about it.  Serving a denied item is over
retrieval, withholding a relevant granted one is under retrieval, and serving an
undetermined one is neither.

Main results:

- Theorem {lit}`Comparison.served_cases`: every served item is granted, over
  retrieved or undetermined.
- Theorems {lit}`Comparison.overServed_eq_empty_iff` and
  {lit}`Comparison.underServed_eq_empty_iff`: what a clean comparison means.
- Theorems {lit}`Comparison.overServed_mono` and {lit}`Comparison.underServed_anti`: what
  serving more changes.
- Theorem {lit}`Comparison.overServed_subset_iff`: when a change of the ground truth
  loses an over retrieval.
-/

namespace Audit

/-- What the ground truth says about one item for one reader. -/
inductive Judgement
  | granted
  | denied
  | undetermined
deriving DecidableEq, Repr

/-- One reader's comparison: the ground truth, the items relevant to the query
and the items served. -/
structure Comparison (ι : Type) where
  judge : ι → Judgement
  relevant : Set ι
  served : Set ι

namespace Comparison

variable {ι : Type}

/-- Items served although the truth denies them. -/
def overServed (c : Comparison ι) : Set ι :=
  {i | i ∈ c.served ∧ c.judge i = .denied}

/-- Relevant items the truth grants and the reader was not served. -/
def underServed (c : Comparison ι) : Set ι :=
  {i | i ∈ c.relevant ∧ c.judge i = .granted ∧ i ∉ c.served}

/-- Items served about which the truth says nothing. -/
def undetermined (c : Comparison ι) : Set ι :=
  {i | i ∈ c.served ∧ c.judge i = .undetermined}

/-- Every served item is granted, over retrieved or undetermined. -/
theorem served_cases (c : Comparison ι) {i : ι} (hserved : i ∈ c.served) :
    c.judge i = .granted ∨ i ∈ c.overServed ∨ i ∈ c.undetermined := by
  cases hjudge : c.judge i with
  | granted => exact Or.inl rfl
  | denied => exact Or.inr (Or.inl ⟨hserved, hjudge⟩)
  | undetermined => exact Or.inr (Or.inr ⟨hserved, hjudge⟩)

/-- Nothing is over retrieved exactly when nothing served is denied. -/
theorem overServed_eq_empty_iff (c : Comparison ι) :
    c.overServed = ∅ ↔ ∀ i ∈ c.served, c.judge i ≠ .denied := by
  simp [overServed, Set.eq_empty_iff_forall_notMem]

/-- Nothing is under retrieved exactly when every relevant granted item is served. -/
theorem underServed_eq_empty_iff (c : Comparison ι) :
    c.underServed = ∅ ↔ ∀ i ∈ c.relevant, c.judge i = .granted → i ∈ c.served := by
  rw [Set.eq_empty_iff_forall_notMem]
  constructor
  · intro hnone i hrelevant hgranted
    by_contra hmissing
    exact hnone i ⟨hrelevant, hgranted, hmissing⟩
  · intro hall i hwithheld
    rcases hwithheld with ⟨hrelevant, hgranted, hmissing⟩
    exact hmissing (hall i hrelevant hgranted)

/-- Serving more over retrieves more. -/
theorem overServed_mono {c c' : Comparison ι} (hjudge : c.judge = c'.judge)
    (hserved : c.served ⊆ c'.served) : c.overServed ⊆ c'.overServed := by
  intro i hover
  rcases hover with ⟨hi, hdenied⟩
  exact ⟨hserved hi, hjudge ▸ hdenied⟩

/-- Serving more under retrieves less. -/
theorem underServed_anti {c c' : Comparison ι} (hjudge : c.judge = c'.judge)
    (hrelevant : c.relevant = c'.relevant) (hserved : c.served ⊆ c'.served) :
    c'.underServed ⊆ c.underServed := by
  intro i hunder
  rcases hunder with ⟨hi, hgranted, hmissing⟩
  exact ⟨hrelevant ▸ hi, hjudge ▸ hgranted, fun h => hmissing (hserved h)⟩

/-- Against another truth the same served items keep every over retrieval, or
have it undetermined, exactly when no denied item served becomes granted. -/
theorem overServed_subset_iff (c : Comparison ι) (judge' : ι → Judgement) :
    c.overServed ⊆ { c with judge := judge' }.overServed ∪ { c with judge := judge' }.undetermined ↔
      ∀ i ∈ c.served, c.judge i = .denied → judge' i ≠ .granted := by
  constructor
  · intro hsubset i hserved hdenied hgranted
    rcases hsubset ⟨hserved, hdenied⟩ with hover | hundetermined
    · exact Judgement.noConfusion (hgranted.symm.trans hover.2)
    · exact Judgement.noConfusion (hgranted.symm.trans hundetermined.2)
  · intro hkept i hover
    rcases hover with ⟨hserved, hdenied⟩
    cases hjudge : judge' i with
    | granted => exact absurd hjudge (hkept i hserved hdenied)
    | denied => exact Or.inl ⟨hserved, hjudge⟩
    | undetermined => exact Or.inr ⟨hserved, hjudge⟩

end Comparison

end Audit
