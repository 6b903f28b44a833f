import Tearline.Domain

/-!
# The entitlement rule a source system states

A rule is three named clauses and a combinator, each from a closed set, so every
value of {lit}`EntitlementRule` is a rule the loader accepts.  The same clauses
have a strict reading, {lit}`EntitlementRule.entitled`, and the reading of a
filter that takes absence for permission,
{lit}`EntitlementRule.admittedByNaiveFilter`.

Main results:

- Theorem {lit}`EntitlementRule.entitled_of_unknown`: an unstated entitlement
  grants nothing under any rule.
- Theorem {lit}`EntitlementRule.entitled_congr`: the rule reads the state, the
  tenants, the roles and the direct grants, and nothing else.
- Theorem {lit}`Combinator.combine_mono`: every combinator is monotone in its
  three clauses.
- Theorems {lit}`EntitlementRule.admitted_of_entitled` and
  {lit}`EntitlementRule.admitted_eq_entitled`: the two readings compared.
-/

namespace Tearline

/-! ## The closed vocabularies -/

/-- How the tenant clause reads a tenant set. -/
inductive TenantClause
  /-- `member` -/
  | member
  /-- `member-or-unrestricted` -/
  | memberOrUnrestricted
  /-- `ignored` -/
  | ignored
deriving DecidableEq, Repr

/-- How the role clause reads a role set. -/
inductive RoleClause
  /-- `intersects` -/
  | intersects
  /-- `intersects-or-everyone` -/
  | intersectsOrEveryone
  /-- `subset`: the principal must hold every role named. -/
  | subset
  /-- `ignored` -/
  | ignored
deriving DecidableEq, Repr

/-- How a direct principal grant is read. -/
inductive DirectClause
  /-- `principal-listed` -/
  | principalListed
  /-- `ignored` -/
  | ignored
deriving DecidableEq, Repr

/-- How the three clauses combine. -/
inductive Combinator
  /-- `tenant AND (role OR direct)` -/
  | tenantAndRoleOrDirect
  /-- `tenant AND role` -/
  | tenantAndRole
  /-- `tenant AND role AND direct` -/
  | tenantAndRoleAndDirect
  /-- `tenant OR role` -/
  | tenantOrRole
  /-- `(tenant OR direct) AND role` -/
  | tenantOrDirectAndRole
deriving DecidableEq, Repr

/-- A source system's stated entitlement semantics. -/
structure EntitlementRule where
  system : String
  tenant : TenantClause
  role : RoleClause
  direct : DirectClause
  combine : Combinator
deriving DecidableEq

/-! ## Reading the clauses -/

/-- The source's `_tenant`. -/
def tenantHolds (clause : TenantClause) (ent : Entitlement) (principal : Principal) : Bool :=
  if clause = .ignored then true
  else if ent.tenants = ∅ then decide (clause = .memberOrUnrestricted)
  else match principal.tenant with
    | none => false
    | some tenant => decide (tenant ∈ ent.tenants)

/-- The source's `_role`. -/
def roleHolds (clause : RoleClause) (ent : Entitlement) (principal : Principal) : Bool :=
  if clause = .ignored then true
  else if ent.roles = ∅ then false
  else if clause = .intersectsOrEveryone ∧ "everyone" ∈ ent.roles then true
  else if clause = .subset then decide (ent.roles ⊆ principal.roles)
  else decide (ent.roles ∩ principal.roles ≠ ∅)

/-- The source's `_direct`. -/
def directHolds (clause : DirectClause) (ent : Entitlement) (principal : Principal) : Bool :=
  if clause = .ignored then false
  else decide (principal.id ∈ ent.principals)

/-- The source's `_combine`, total because the combinator is one of the five. -/
def Combinator.combine (combinator : Combinator) (tenant role direct : Bool) : Bool :=
  match combinator with
  | .tenantAndRoleOrDirect => tenant && (role || direct)
  | .tenantAndRole => tenant && role
  | .tenantAndRoleAndDirect => tenant && role && direct
  | .tenantOrRole => tenant || role
  | .tenantOrDirectAndRole => (tenant || direct) && role

/-- Whether the source system would grant the principal access. -/
def EntitlementRule.entitled (rule : EntitlementRule) (ent : Entitlement)
    (principal : Principal) : Bool :=
  if ent.state ≠ .stated then false
  else
    rule.combine.combine (tenantHolds rule.tenant ent principal)
      (roleHolds rule.role ent principal) (directHolds rule.direct ent principal)

/-- Admit unless a stated restriction excludes the principal: the state is never
consulted and an empty set reads as unrestricted. -/
def EntitlementRule.admittedByNaiveFilter (rule : EntitlementRule) (ent : Entitlement)
    (principal : Principal) : Bool :=
  let tenantClause : TenantClause :=
    if rule.tenant ≠ .ignored then .memberOrUnrestricted else .ignored
  let tenant := tenantHolds tenantClause ent principal
  let role := if ent.roles = ∅ then true else roleHolds rule.role ent principal
  rule.combine.combine tenant role (directHolds rule.direct ent principal)

/-! ## What the rule reads -/

/-- Every combinator is monotone in its three clauses. -/
theorem Combinator.combine_mono (combinator : Combinator)
    {tenant role direct tenant' role' direct' : Bool}
    (htenant : tenant = true → tenant' = true) (hrole : role = true → role' = true)
    (hdirect : direct = true → direct' = true)
    (h : combinator.combine tenant role direct = true) :
    combinator.combine tenant' role' direct' = true := by
  cases combinator <;> simp only [Combinator.combine, Bool.and_eq_true, Bool.or_eq_true] at h ⊢ <;>
    tauto

/-- An unstated entitlement grants nothing under any rule. -/
theorem EntitlementRule.entitled_of_unknown (rule : EntitlementRule) {ent : Entitlement}
    (principal : Principal) (h : ent.state = .unknown) :
    rule.entitled ent principal = false := by
  simp [EntitlementRule.entitled, h]

/-- A stated entitlement grants what the combined clauses say. -/
theorem EntitlementRule.entitled_of_stated (rule : EntitlementRule) {ent : Entitlement}
    (principal : Principal) (h : ent.state = .stated) :
    rule.entitled ent principal =
      rule.combine.combine (tenantHolds rule.tenant ent principal)
        (roleHolds rule.role ent principal) (directHolds rule.direct ent principal) := by
  simp [EntitlementRule.entitled, h]

/-- A grant presupposes a stated entitlement. -/
theorem EntitlementRule.stated_of_entitled (rule : EntitlementRule) {ent : Entitlement}
    {principal : Principal} (h : rule.entitled ent principal = true) : ent.state = .stated := by
  cases hstate : ent.state with
  | stated => rfl
  | unknown => simp [rule.entitled_of_unknown principal hstate] at h

/-- The rule reads the state, the tenants, the roles and the direct grants, and
nothing else. -/
theorem EntitlementRule.entitled_congr (rule : EntitlementRule) {a b : Entitlement}
    (principal : Principal) (hstate : a.state = b.state) (htenants : a.tenants = b.tenants)
    (hroles : a.roles = b.roles) (hprincipals : a.principals = b.principals) :
    rule.entitled a principal = rule.entitled b principal := by
  simp only [EntitlementRule.entitled, tenantHolds, roleHolds, directHolds, hstate, htenants,
    hroles, hprincipals]

/-- The naive filter reads the tenants, the roles and the direct grants, and nothing else. -/
theorem EntitlementRule.admittedByNaiveFilter_congr (rule : EntitlementRule) {a b : Entitlement}
    (principal : Principal) (htenants : a.tenants = b.tenants) (hroles : a.roles = b.roles)
    (hprincipals : a.principals = b.principals) :
    rule.admittedByNaiveFilter a principal = rule.admittedByNaiveFilter b principal := by
  simp only [EntitlementRule.admittedByNaiveFilter, tenantHolds, roleHolds, directHolds, htenants,
    hroles, hprincipals]

/-! ## The strict and the naive reading -/

/-- An entitlement that leaves nothing for a filter to take for permission. -/
structure Entitlement.Complete (ent : Entitlement) : Prop where
  state : ent.state = .stated
  tenants : ent.tenants ≠ ∅
  roles : ent.roles ≠ ∅

/-- A tenant clause admits no more than its reading of an empty set as unrestricted. -/
theorem tenantHolds_naive {clause : TenantClause} {ent : Entitlement} {principal : Principal}
    (h : tenantHolds clause ent principal = true) :
    tenantHolds (if clause ≠ .ignored then .memberOrUnrestricted else .ignored) ent principal =
      true := by
  unfold tenantHolds at h ⊢
  by_cases hignored : clause = .ignored
  · simp [hignored]
  · by_cases hempty : ent.tenants = ∅
    · simp [hignored, hempty]
    · simpa [hignored, hempty] using h

/-- Over a set of tenants that names one the two readings agree. -/
theorem tenantHolds_naive_eq (clause : TenantClause) {ent : Entitlement} (principal : Principal)
    (htenants : ent.tenants ≠ ∅) :
    tenantHolds (if clause ≠ .ignored then .memberOrUnrestricted else .ignored) ent principal =
      tenantHolds clause ent principal := by
  unfold tenantHolds
  by_cases hignored : clause = .ignored
  · simp [hignored]
  · simp [hignored, htenants]

/-- The naive filter admits everyone the rule entitles. -/
theorem EntitlementRule.admitted_of_entitled (rule : EntitlementRule) {ent : Entitlement}
    {principal : Principal} (h : rule.entitled ent principal = true) :
    rule.admittedByNaiveFilter ent principal = true := by
  rw [rule.entitled_of_stated principal (rule.stated_of_entitled h)] at h
  refine rule.combine.combine_mono tenantHolds_naive (fun hrole => ?_) id h
  by_cases hempty : ent.roles = ∅
  · rw [if_pos hempty]
  · rw [if_neg hempty]
    exact hrole

/-- On a complete entitlement the naive filter is the rule. -/
theorem EntitlementRule.admitted_eq_entitled (rule : EntitlementRule) {ent : Entitlement}
    (principal : Principal) (hcomplete : ent.Complete) :
    rule.admittedByNaiveFilter ent principal = rule.entitled ent principal := by
  rw [rule.entitled_of_stated principal hcomplete.state, EntitlementRule.admittedByNaiveFilter]
  rw [if_neg hcomplete.roles, tenantHolds_naive_eq rule.tenant principal hcomplete.tenants]

end Tearline
