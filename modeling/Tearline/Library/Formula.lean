import Mathlib.Tactic.Common

/-!
# Striking atoms out of a formula

Formulas are built from atoms by conjunction and disjunction.  Some of the atoms can be struck
out, from a conjunction and from a disjunction alike; a formula with nothing left holds.  An
evaluator that gives the struck atoms fixed values instead arrives at the same truth value as
long as those values are neutral wherever they meet an atom that is kept.

Main results:

- Theorem {lit}`Formula.holds_strike`: a formula and what is left of it hold alike.
- Theorem {lit}`Formula.struck_eq_holds`: fixed values that are neutral strike out.
-/

/-- How the two operands of a formula are joined. -/
inductive Connective
  | conj
  | disj
deriving DecidableEq, Repr

/-- Formulas without negation. -/
inductive Formula (α : Type) where
  | atom (a : α)
  | node (op : Connective) (f g : Formula α)

/-! ## Connectives -/

/-- The truth value of two operands joined. -/
def Connective.join : Connective → Bool → Bool → Bool
  | .conj, a, b => a && b
  | .disj, a, b => a || b

/-- The operand that leaves the other one as it is. -/
def Connective.unit : Connective → Bool
  | .conj => true
  | .disj => false

@[simp]
theorem Connective.join_unit_left (op : Connective) (b : Bool) : op.join op.unit b = b := by
  cases op <;> rfl

@[simp]
theorem Connective.join_unit_right (op : Connective) (a : Bool) : op.join a op.unit = a := by
  cases op <;> cases a <;> rfl

namespace Formula

variable {α : Type}

/-! ## Truth values -/

/-- The truth value under a valuation. -/
def holds (v : α → Bool) : Formula α → Bool
  | atom a => v a
  | node op f g => op.join (f.holds v) (g.holds v)

/-- What is left when atoms are struck out, if anything is. -/
def strike (dropped : α → Bool) : Formula α → Option (Formula α)
  | atom a => if dropped a then none else some (atom a)
  | node op f g =>
      match f.strike dropped, g.strike dropped with
      | none, none => none
      | none, some g => some g
      | some f, none => some f
      | some f, some g => some (node op f g)

/-- The truth value of what is left, which is true when nothing is. -/
def struck (dropped : α → Bool) (v : α → Bool) (f : Formula α) : Bool :=
  match f.strike dropped with
  | none => true
  | some rest => rest.holds v

@[simp]
theorem strike_atom_eq_none (dropped : α → Bool) (a : α) :
    (atom a).strike dropped = none ↔ dropped a = true := by
  simp [strike]

/-- Nothing is left of a formula exactly when nothing is left of its operands. -/
@[simp]
theorem strike_node_eq_none (dropped : α → Bool) (op : Connective) (f g : Formula α) :
    (node op f g).strike dropped = none ↔
      f.strike dropped = none ∧ g.strike dropped = none := by
  rw [strike]
  cases f.strike dropped <;> cases g.strike dropped <;> simp

/-! ## Neutral values -/

/-- Wherever an operand with nothing left meets one with something left, its value is the unit
of the connective. -/
def NeutralIn (dropped : α → Bool) (v : α → Bool) : Formula α → Prop
  | atom _ => True
  | node op f g =>
      f.NeutralIn dropped v ∧ g.NeutralIn dropped v ∧
        (f.strike dropped = none → g.strike dropped ≠ none → f.holds v = op.unit) ∧
        (f.strike dropped ≠ none → g.strike dropped = none → g.holds v = op.unit)

/-- The values of the dropped atoms are neutral in the formula, and make it true when they are
all there is. -/
structure Neutral (dropped : α → Bool) (v : α → Bool) (f : Formula α) : Prop where
  inside : f.NeutralIn dropped v
  whole : f.strike dropped = none → f.holds v = true

/-- Where the values of the dropped atoms are neutral, a formula and what is left of it hold
alike. -/
theorem holds_strike {dropped : α → Bool} {v : α → Bool} {f rest : Formula α}
    (hneutral : f.NeutralIn dropped v) (hrest : f.strike dropped = some rest) :
    rest.holds v = f.holds v := by
  induction f generalizing rest with
  | atom a =>
      rw [strike] at hrest
      split at hrest
      · cases hrest
      · cases hrest
        rfl
  | node op f g ihf ihg =>
      rcases hneutral with ⟨hf, hg, hleft, hright⟩
      rw [strike] at hrest
      cases hfs : f.strike dropped with
      | none =>
          cases hgs : g.strike dropped with
          | none =>
              rw [hfs, hgs] at hrest
              cases hrest
          | some g' =>
              rw [hfs, hgs] at hrest
              cases hrest
              rw [holds, ihg hg hgs, hleft hfs (hgs ▸ nofun), Connective.join_unit_left]
      | some f' =>
          cases hgs : g.strike dropped with
          | none =>
              rw [hfs, hgs] at hrest
              cases hrest
              rw [holds, ihf hf hfs, hright (hfs ▸ nofun) hgs, Connective.join_unit_right]
          | some g' =>
              rw [hfs, hgs] at hrest
              cases hrest
              rw [holds, holds, ihf hf hfs, ihg hg hgs]

/-- Neutral values strike out. -/
theorem struck_eq_holds {dropped : α → Bool} {v : α → Bool} {f : Formula α}
    (hneutral : f.Neutral dropped v) : f.struck dropped v = f.holds v := by
  unfold struck
  cases hrest : f.strike dropped with
  | none => exact (hneutral.whole hrest).symm
  | some rest => exact holds_strike hneutral.inside hrest

end Formula
