import Tearline.EntitlementRule

/-!
# Enforcement models and combined entitlements

Main definitions:

- Definition {lit}`enforcementFor`: the predicate a variant's declared enforcement
  model applies, which raises outside the closed set.
- Definition {lit}`safeBound`: the left fold of {lit}`Entitlement.intersect` over
  a chunk's sources.
- Definition {lit}`entitledByAll`: whether every source grants a principal.

Main results:

- Theorem {lit}`enforcementFor_isOk_iff`: the enforcement models are exactly the
  closed set.
- Theorem {lit}`entitledByAll_eq_true_iff`: no source means no grant.
-/

namespace Tearline

/-- An enforcement predicate. -/
abbrev Enforcement := Entitlement → Principal → Bool

/-- The predicate a variant's declared enforcement model applies. -/
def enforcementFor (rule : EntitlementRule) (model : String) : Except PyError Enforcement :=
  if model = "rule" then .ok rule.entitled
  else if model = "naive-tenant-exclusion" then .ok rule.admittedByNaiveFilter
  else .error (.valueError model)

/-- The closed set of enforcement models. -/
def enforcementModels : Finset String :=
  {"rule", "naive-tenant-exclusion"}

/-- The safe bound of a chunk's sources; no bound without a source. -/
def safeBound : List Entitlement → Option Entitlement
  | [] => none
  | first :: rest => some (rest.foldl Entitlement.intersect first)

/-- Whether there is a source and every source grants the principal. -/
def entitledByAll (rule : EntitlementRule) (entitlements : List Entitlement)
    (principal : Principal) : Bool :=
  !entitlements.isEmpty && entitlements.all fun e => rule.entitled e principal

/-! ## Enforcement models -/

/-- An enforcement model is accepted exactly when it is in the closed set. -/
theorem enforcementFor_isOk_iff (rule : EntitlementRule) (model : String) :
    (∃ enforce, enforcementFor rule model = .ok enforce) ↔ model ∈ enforcementModels := by
  unfold enforcementFor enforcementModels
  rw [Finset.mem_insert, Finset.mem_singleton]
  split_ifs with hrule hnaive
  · simp [hrule]
  · simp [hnaive]
  · simp [hrule, hnaive]

/-- Faithful enforcement applies the rule itself. -/
theorem enforcementFor_rule (rule : EntitlementRule) :
    enforcementFor rule "rule" = .ok rule.entitled :=
  if_pos rfl

/-- The other model of the closed set applies the naive reading. -/
theorem enforcementFor_naive (rule : EntitlementRule) :
    enforcementFor rule "naive-tenant-exclusion" = .ok rule.admittedByNaiveFilter := by
  rw [enforcementFor, if_neg (by decide), if_pos rfl]

/-! ## Combined entitlements -/

/-- All sources grant a principal exactly when there is one and none denies. -/
theorem entitledByAll_eq_true_iff (rule : EntitlementRule) (entitlements : List Entitlement)
    (principal : Principal) :
    entitledByAll rule entitlements principal = true ↔
      entitlements ≠ [] ∧ ∀ e ∈ entitlements, rule.entitled e principal = true := by
  simp [entitledByAll]

/-- All of a list of documents grant a principal exactly when there is one and none
denies. -/
theorem entitledByAll_map_eq_true_iff (rule : EntitlementRule) (sources : List SourceDocument)
    (principal : Principal) :
    entitledByAll rule (sources.map SourceDocument.entitlement) principal = true ↔
      sources ≠ [] ∧ ∀ source ∈ sources, rule.entitled source.entitlement principal = true := by
  simp [entitledByAll_eq_true_iff]

end Tearline
