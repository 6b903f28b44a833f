import Tearline.EntitlementRule
import Tearline.Library.Formula

/-!
# Ignored clauses

An ignored clause is given a fixed value, true for tenants and roles and false for direct
grants, and not struck out of the combinator's expression.  The two agree where the value is
the unit of the connective the clause stands under.

Main results:

- Theorem {lit}`EntitlementRule.entitled_eq_holds`: a rule is the expression of its combinator.
- Theorem {lit}`ignoredNeutral_iff`: the rules whose ignored clauses are neutral.
-/

namespace Tearline

/-! ## The combinator's expression -/

/-- The clauses of a rule. -/
inductive Clause
  | tenant
  | role
  | direct
deriving DecidableEq, Repr

/-- The expression a combinator spells. -/
def Combinator.expression : Combinator → Formula Clause
  | .tenantAndRoleOrDirect =>
      .node .conj (.atom .tenant) (.node .disj (.atom .role) (.atom .direct))
  | .tenantAndRole => .node .conj (.atom .tenant) (.atom .role)
  | .tenantAndRoleAndDirect =>
      .node .conj (.node .conj (.atom .tenant) (.atom .role)) (.atom .direct)
  | .tenantOrRole => .node .disj (.atom .tenant) (.atom .role)
  | .tenantOrDirectAndRole =>
      .node .conj (.node .disj (.atom .tenant) (.atom .direct)) (.atom .role)

/-- What each clause of a rule comes to. -/
def EntitlementRule.clauseValue (rule : EntitlementRule) (ent : Entitlement) (principal : Principal) :
    Clause → Bool
  | .tenant => tenantHolds rule.tenant ent principal
  | .role => roleHolds rule.role ent principal
  | .direct => directHolds rule.direct ent principal

/-- Which clauses a rule ignores. -/
def EntitlementRule.ignores (rule : EntitlementRule) : Clause → Bool
  | .tenant => decide (rule.tenant = .ignored)
  | .role => decide (rule.role = .ignored)
  | .direct => decide (rule.direct = .ignored)

/-- The value of the combinator's expression with every ignored clause struck out. -/
def EntitlementRule.struckOut (rule : EntitlementRule) (ent : Entitlement)
    (principal : Principal) : Bool :=
  rule.combine.expression.struck rule.ignores (rule.clauseValue ent principal)

/-- On a stated entitlement a rule is the expression of its combinator. -/
theorem EntitlementRule.entitled_eq_holds (rule : EntitlementRule) {ent : Entitlement}
    (principal : Principal) (h : ent.state = .stated) :
    rule.entitled ent principal = rule.combine.expression.holds (rule.clauseValue ent principal) := by
  rw [rule.entitled_of_stated principal h]
  cases rule.combine <;> rfl

/-! ## The value of an ignored clause -/

/-- The fixed value of an ignored clause. -/
def Clause.ignoredValue : Clause → Bool
  | .tenant => true
  | .role => true
  | .direct => false

theorem EntitlementRule.clauseValue_of_ignores (rule : EntitlementRule) (ent : Entitlement)
    (principal : Principal) {clause : Clause} (h : rule.ignores clause = true) :
    rule.clauseValue ent principal clause = clause.ignoredValue := by
  cases clause with
  | tenant => exact if_pos (of_decide_eq_true h)
  | role => exact if_pos (of_decide_eq_true h)
  | direct => exact if_pos (of_decide_eq_true h)

/-- A stated entitlement that names a tenant, a role and perhaps the principal. -/
private def namingEntitlement (direct : Bool) : Entitlement where
  state := .stated
  tenants := {"acme"}
  roles := {"hr"}
  principals := if direct then {"p-ada"} else ∅

/-- A principal with the tenant, the role or neither. -/
private def namedPrincipal (tenant role : Bool) : Principal where
  id := "p-ada"
  label := "Ada"
  tenant := if tenant then some "acme" else none
  roles := if role then {"hr"} else ∅

/-- Every clause that is not ignored can come to anything, whatever the others come to. -/
theorem EntitlementRule.exists_clauseValue (rule : EntitlementRule) {v : Clause → Bool}
    (hv : ∀ clause, rule.ignores clause = true → v clause = clause.ignoredValue) :
    ∃ (ent : Entitlement) (p : Principal), ent.state = .stated ∧ rule.clauseValue ent p = v := by
  refine ⟨namingEntitlement (v .direct), namedPrincipal (v .tenant) (v .role), rfl, ?_⟩
  funext clause
  by_cases hignored : rule.ignores clause = true
  · rw [rule.clauseValue_of_ignores _ _ hignored, hv clause hignored]
  · cases clause with
    | tenant =>
        have hclause : rule.tenant ≠ .ignored := fun h => hignored (decide_eq_true h)
        cases htenant : v .tenant <;>
          simp [clauseValue, tenantHolds, hclause, namingEntitlement, namedPrincipal]
    | role =>
        have hclause : rule.role ≠ .ignored := fun h => hignored (decide_eq_true h)
        cases hrole : v .role <;>
          simp [clauseValue, roleHolds, hclause, namingEntitlement, namedPrincipal]
    | direct =>
        have hclause : rule.direct ≠ .ignored := fun h => hignored (decide_eq_true h)
        cases hdirect : v .direct <;>
          simp [clauseValue, directHolds, hclause, namingEntitlement, namedPrincipal]

/-! ## The rules whose ignored clauses are neutral -/

/-- No ignored clause stands where its value decides. -/
def EntitlementRule.IgnoresNeutrally (rule : EntitlementRule) : Prop :=
  match rule.combine with
  | .tenantAndRoleOrDirect => rule.role = .ignored → rule.direct = .ignored
  | .tenantAndRole => True
  | .tenantAndRoleAndDirect => rule.direct ≠ .ignored
  | .tenantOrRole => rule.tenant = .ignored ↔ rule.role = .ignored
  | .tenantOrDirectAndRole => rule.tenant = .ignored → rule.direct = .ignored

/-- Where no ignored clause decides, the values of the ignored clauses are neutral. -/
theorem EntitlementRule.IgnoresNeutrally.neutral {rule : EntitlementRule}
    (h : rule.IgnoresNeutrally) {v : Clause → Bool}
    (hv : ∀ clause, rule.ignores clause = true → v clause = clause.ignoredValue) :
    rule.combine.expression.Neutral rule.ignores v := by
  have htenant : rule.tenant = .ignored → v .tenant = true := fun h => hv .tenant (decide_eq_true h)
  have hrole : rule.role = .ignored → v .role = true := fun h => hv .role (decide_eq_true h)
  have hdirect : rule.direct = .ignored → v .direct = false := fun h =>
    hv .direct (decide_eq_true h)
  unfold EntitlementRule.IgnoresNeutrally at h
  cases hcombine : rule.combine <;> rw [hcombine] at h <;> dsimp only at h
  all_goals
    constructor
    · simp only [Combinator.expression, Formula.NeutralIn, Formula.strike_atom_eq_none,
        Formula.strike_node_eq_none, Formula.holds, Connective.unit, Connective.join,
        EntitlementRule.ignores, decide_eq_true_eq, Bool.and_eq_true, Bool.or_eq_true, ne_eq]
      grind
    · simp only [Combinator.expression, Formula.strike_atom_eq_none,
        Formula.strike_node_eq_none, Formula.holds, Connective.join,
        EntitlementRule.ignores, decide_eq_true_eq, Bool.and_eq_true, Bool.or_eq_true]
      grind

/-- A rule that no valuation of its clauses tells from the struck-out expression has no ignored
clause that decides. -/
theorem EntitlementRule.ignoresNeutrally_of_struck {rule : EntitlementRule}
    (h : ∀ v, (∀ clause, rule.ignores clause = true → v clause = clause.ignoredValue) →
      rule.combine.expression.holds v = rule.combine.expression.struck rule.ignores v) :
    rule.IgnoresNeutrally := by
  -- The ignored clauses have their values, and so have the others.
  have hfixed := h Clause.ignoredValue fun _ _ => rfl
  unfold EntitlementRule.IgnoresNeutrally
  cases hcombine : rule.combine with
  | tenantAndRoleOrDirect =>
      intro hrole
      by_contra hdirect
      by_cases htenant : rule.tenant = .ignored <;>
        simp [hcombine, Combinator.expression, Formula.struck, Formula.strike, Formula.holds,
          ignores, Connective.join, Clause.ignoredValue, hrole, hdirect, htenant] at hfixed
  | tenantAndRole => trivial
  | tenantAndRoleAndDirect =>
      intro hdirect
      by_cases htenant : rule.tenant = .ignored <;> by_cases hrole : rule.role = .ignored <;>
        simp [hcombine, Combinator.expression, Formula.struck, Formula.strike, Formula.holds,
          ignores, Connective.join, Clause.ignoredValue, hrole, hdirect, htenant] at hfixed
  | tenantOrRole =>
      -- Here a clause that is not ignored fails.
      have hfailing := h (fun clause => decide (clause ≠ .direct) && rule.ignores clause)
        (fun clause hclause => by cases clause <;> simp [hclause, Clause.ignoredValue])
      by_cases htenant : rule.tenant = .ignored <;> by_cases hrole : rule.role = .ignored <;>
        simp [hcombine, Combinator.expression, Formula.struck, Formula.strike, Formula.holds,
          ignores, Connective.join, hrole, htenant] at hfailing ⊢
  | tenantOrDirectAndRole =>
      intro htenant
      by_contra hdirect
      by_cases hrole : rule.role = .ignored <;>
        simp [hcombine, Combinator.expression, Formula.struck, Formula.strike, Formula.holds,
          ignores, Connective.join, Clause.ignoredValue, hrole, hdirect, htenant] at hfixed

/-- On stated entitlements a rule is its expression with the ignored clauses struck out exactly
when none of them decides. -/
theorem ignoredNeutral_iff (rule : EntitlementRule) :
    (∀ (ent : Entitlement) (p : Principal), ent.state = .stated →
        rule.entitled ent p = rule.struckOut ent p) ↔
      rule.IgnoresNeutrally := by
  constructor
  · intro hneutral
    apply EntitlementRule.ignoresNeutrally_of_struck
    intro v hv
    rcases rule.exists_clauseValue hv with ⟨ent, p, hstated, rfl⟩
    rw [← rule.entitled_eq_holds p hstated]
    exact hneutral ent p hstated
  · intro hneutral ent p hstated
    rw [rule.entitled_eq_holds p hstated, EntitlementRule.struckOut, Formula.struck_eq_holds]
    exact hneutral.neutral fun _ => rule.clauseValue_of_ignores ent p

/-- A rule that means members alone to read. -/
def membersOnly : EntitlementRule where
  system := "wiki"
  tenant := .member
  role := .ignored
  direct := .ignored
  combine := .tenantAndRoleAndDirect

/-- A rule whose direct clause is ignored denies a member whom its tenant clause admits. -/
theorem membersOnly_denies_member :
    membersOnly.entitled { state := .stated, tenants := {"acme"} }
        { id := "p-ada", label := "Ada", tenant := some "acme" } = false ∧
      membersOnly.struckOut { state := .stated, tenants := {"acme"} }
        { id := "p-ada", label := "Ada", tenant := some "acme" } = true := by
  decide +kernel

/-- A rule without tenants and roles is owner only. -/
example (ent : Entitlement) (p : Principal) (h : ent.state = .stated) :
    EntitlementRule.entitled ⟨"rag", .ignored, .ignored, .principalListed,
      .tenantAndRoleAndDirect⟩ ent p = decide (p.id ∈ ent.principals) := by
  simp [EntitlementRule.entitled, h, tenantHolds, roleHolds, directHolds, Combinator.combine]

end Tearline
