import Mathlib.Data.List.Basic
import Mathlib.Order.Lattice

/-!
# Values that change in time

A timeline is an initial value and the changes made to it, oldest first, at distinct
times.

Main results:

- Definition {lit}`Timeline.valueAt`: the value in force at a time.
- Theorem {lit}`Timeline.valueAt_eq_current`: after the last change the current value is
  in force.
-/

/-- A value and the changes made to it at strictly increasing times. -/
structure Timeline (τ α : Type) [LinearOrder τ] where
  initial : α
  changes : List (τ × α)
  increasing : changes.Pairwise fun earlier later => earlier.1 < later.1

namespace Timeline

variable {τ α : Type} [LinearOrder τ]

/-- The value the last of some changes leaves. -/
def valueAfter (initial : α) (changes : List (τ × α)) : α :=
  match changes.getLast? with
  | none => initial
  | some change => change.2

/-- The value in force at a time. -/
def valueAt (timeline : Timeline τ α) (t : τ) : α :=
  valueAfter timeline.initial (timeline.changes.filter fun change => change.1 ≤ t)

/-- The value all changes leave. -/
def current (timeline : Timeline τ α) : α :=
  valueAfter timeline.initial timeline.changes

/-- The time of the last change, when there is one. -/
def lastChange (timeline : Timeline τ α) : Option τ :=
  timeline.changes.getLast?.map Prod.fst

/-- No change is later than the last one. -/
theorem le_of_lastChange {timeline : Timeline τ α} {t : τ} (hlast : timeline.lastChange = some t)
    {change : τ × α} (hchange : change ∈ timeline.changes) : change.1 ≤ t := by
  rcases Option.map_eq_some_iff.mp hlast with ⟨last, hget, rfl⟩
  rcases List.getLast?_eq_some_iff.mp hget with ⟨earlier, hsplit⟩
  have hincreasing := timeline.increasing
  rw [hsplit] at hchange hincreasing
  rcases List.mem_append.mp hchange with hearlier | hself
  · exact ((List.pairwise_append.mp hincreasing).2.2 change hearlier last
      (List.mem_singleton_self last)).le
  · rw [List.mem_singleton.mp hself]

/-- After the last change the current value is in force. -/
theorem valueAt_eq_current {timeline : Timeline τ α} {last t : τ}
    (hlast : timeline.lastChange = some last) (hle : last ≤ t) :
    timeline.valueAt t = timeline.current := by
  have hall : timeline.changes.filter (fun change => change.1 ≤ t) = timeline.changes :=
    List.filter_eq_self.mpr fun change hchange =>
      decide_eq_true ((le_of_lastChange hlast hchange).trans hle)
  rw [valueAt, hall, current]

end Timeline
