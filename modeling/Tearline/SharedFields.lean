import Tearline.SourceOrder

/-!
# What the fields of several sources share

The safe bound compares sources field by field.  Here its grants are read off the sources
themselves: the tenants and the direct grants that all of them name, the roles that their role
sets leave over, and the rule's clauses.

Main results:

- Theorem {lit}`entitled_common_iff`: the common entitlement grants what the shared fields grant.
- Theorem {lit}`opened_of_sharedGrant`: whom the shared fields let in past a source.
- Theorem {lit}`narrowed_of_entitled`: whom they shut out although every source grants.
-/

namespace Tearline

/-! ## The clauses on shared fields -/

/-- The tenant clause on the tenants that all entitlements name, where naming none in common
reads as naming none. -/
def TenantShared (clause : TenantClause) (entitlements : List Entitlement) (p : Principal) :
    Prop :=
  clause = .ignored ∨ (∃ tenant ∈ p.tenant, ∀ e ∈ entitlements, tenant ∈ e.tenants) ∨
    clause = .memberOrUnrestricted ∧ ∀ tenant, ∃ e ∈ entitlements, tenant ∉ e.tenants

/-- The role sets that name a role, in order, are groups that share a role until their last
member leaves none, and then a group whose members all name this one. -/
def RoleLeft (entitlements : List Entitlement) (role : String) : Prop :=
  RunningMeet.Standing ((entitlements.map Entitlement.roles).filter (· ≠ ∅)) {role}

/-- The role clause on the roles that are left. -/
def RoleShared (clause : RoleClause) (entitlements : List Entitlement) (p : Principal) : Prop :=
  match clause with
  | .ignored => True
  | .intersects => ∃ role ∈ p.roles, RoleLeft entitlements role
  | .intersectsOrEveryone =>
      RoleLeft entitlements "everyone" ∨ ∃ role ∈ p.roles, RoleLeft entitlements role
  | .subset =>
      (∃ role, RoleLeft entitlements role) ∧ ∀ role, RoleLeft entitlements role → role ∈ p.roles

/-- The direct clause on the grants that all entitlements name. -/
def DirectShared (clause : DirectClause) (entitlements : List Entitlement) (p : Principal) :
    Prop :=
  clause = .principalListed ∧ ∀ e ∈ entitlements, p.id ∈ e.principals

/-- The combinator on propositions. -/
def Combinator.Joined (combinator : Combinator) (tenant role direct : Prop) : Prop :=
  match combinator with
  | .tenantAndRoleOrDirect => tenant ∧ (role ∨ direct)
  | .tenantAndRole => tenant ∧ role
  | .tenantAndRoleAndDirect => tenant ∧ role ∧ direct
  | .tenantOrRole => tenant ∨ role
  | .tenantOrDirectAndRole => (tenant ∨ direct) ∧ role

/-- All entitlements are stated, and the rule's clauses on what they share hold together. -/
structure SharedGrant (rule : EntitlementRule) (entitlements : List Entitlement)
    (p : Principal) : Prop where
  stated : ∀ e ∈ entitlements, e.state = .stated
  clauses : rule.combine.Joined (TenantShared rule.tenant entitlements p)
    (RoleShared rule.role entitlements p) (DirectShared rule.direct entitlements p)

/-- The combinator joins truth values as it joins propositions. -/
theorem Combinator.combine_eq_true_iff (combinator : Combinator) (tenant role direct : Bool) :
    combinator.combine tenant role direct = true ↔
      combinator.Joined (tenant = true) (role = true) (direct = true) := by
  cases combinator <;> simp [Combinator.combine, Combinator.Joined, and_assoc]

/-- Joining is monotone. -/
theorem Combinator.Joined.mono {combinator : Combinator}
    {tenant role direct tenant' role' direct' : Prop} (htenant : tenant → tenant')
    (hrole : role → role') (hdirect : direct → direct')
    (h : combinator.Joined tenant role direct) : combinator.Joined tenant' role' direct' := by
  cases combinator <;> simp only [Combinator.Joined] at h ⊢ <;> tauto

/-- A stated entitlement grants what its clauses join to. -/
theorem EntitlementRule.entitled_iff_joined (rule : EntitlementRule) {ent : Entitlement}
    (p : Principal) (hstated : ent.state = .stated) :
    rule.entitled ent p = true ↔ rule.combine.Joined (tenantHolds rule.tenant ent p = true)
      (roleHolds rule.role ent p = true) (directHolds rule.direct ent p = true) := by
  rw [rule.entitled_of_stated p hstated, Combinator.combine_eq_true_iff]

/-! ## The common entitlement -/

/-- A role is common when it is left. -/
theorem mem_commonRoles_iff (entitlements : List Entitlement) (role : String) :
    role ∈ commonRoles entitlements ↔ RoleLeft entitlements role := by
  rw [← Finset.singleton_subset_iff, commonRoles_eq_running]
  exact RunningMeet.le_running_iff _ (Finset.singleton_ne_empty role)

/-- No tenant is common when each one is missing somewhere. -/
theorem commonOf_eq_empty_iff (field : Entitlement → Finset String)
    {entitlements : List Entitlement} (hne : entitlements ≠ []) :
    commonOf field entitlements = ∅ ↔ ∀ x, ∃ e ∈ entitlements, x ∉ field e := by
  simp [Finset.eq_empty_iff_forall_notMem, mem_commonOf, hne]

theorem tenantHolds_common_iff (clause : TenantClause) {entitlements : List Entitlement}
    (hne : entitlements ≠ []) (p : Principal) :
    tenantHolds clause (commonEntitlement entitlements) p = true ↔
      TenantShared clause entitlements p := by
  have hempty := commonOf_eq_empty_iff Entitlement.tenants hne
  unfold tenantHolds TenantShared
  by_cases hignored : clause = .ignored
  · simp [hignored]
  rw [if_neg hignored, or_iff_right hignored, ← hempty]
  by_cases hnone : (commonEntitlement entitlements).tenants = ∅
  · have hmissing := hempty.mp hnone
    have hshared : ¬ ∃ tenant ∈ p.tenant, ∀ e ∈ entitlements, tenant ∈ e.tenants := by
      rintro ⟨tenant, -, hall⟩
      rcases hmissing tenant with ⟨e, he, hout⟩
      exact hout (hall e he)
    rw [if_pos hnone, or_iff_right hshared, decide_eq_true_eq]
    exact (and_iff_left hnone).symm
  · rw [if_neg hnone, or_iff_left fun h => hnone h.2]
    cases htenant : p.tenant with
    | none => simp
    | some tenant => simp [commonEntitlement, mem_commonOf, hne]

theorem roleHolds_common_iff (clause : RoleClause) (entitlements : List Entitlement)
    (p : Principal) :
    roleHolds clause (commonEntitlement entitlements) p = true ↔
      RoleShared clause entitlements p := by
  have hroles : (commonEntitlement entitlements).roles = commonRoles entitlements := rfl
  have hmeet : commonRoles entitlements ∩ p.roles ≠ ∅ ↔
      ∃ role ∈ p.roles, RoleLeft entitlements role := by
    rw [← Finset.nonempty_iff_ne_empty]
    simp only [Finset.Nonempty, Finset.mem_inter, mem_commonRoles_iff, and_comm]
  have hsome : commonRoles entitlements ≠ ∅ ↔ ∃ role, RoleLeft entitlements role := by
    rw [← Finset.nonempty_iff_ne_empty]
    simp only [Finset.Nonempty, mem_commonRoles_iff]
  unfold roleHolds RoleShared
  rw [hroles]
  by_cases hempty : commonRoles entitlements = ∅
  · have hnone : ∀ role, ¬ RoleLeft entitlements role := by
      intro role hleft
      exact hsome.mpr ⟨role, hleft⟩ hempty
    cases clause <;> simp [hempty, hnone]
  · cases clause with
    | ignored => simp
    | intersects => simp [hempty, hmeet]
    | intersectsOrEveryone =>
        by_cases heveryone : "everyone" ∈ commonRoles entitlements
        · simp [hempty, heveryone, (mem_commonRoles_iff entitlements _).mp heveryone]
        · simp [hempty, heveryone, mt (mem_commonRoles_iff entitlements _).mpr heveryone, hmeet]
    | subset => simp [hempty, hsome.mp hempty, Finset.subset_iff, mem_commonRoles_iff]

theorem directHolds_common_iff (clause : DirectClause) {entitlements : List Entitlement}
    (hne : entitlements ≠ []) (p : Principal) :
    directHolds clause (commonEntitlement entitlements) p = true ↔
      DirectShared clause entitlements p := by
  cases clause <;> simp [directHolds, DirectShared, commonEntitlement, mem_commonOf, hne]

/-- The common entitlement grants what the shared fields grant. -/
theorem entitled_common_iff (rule : EntitlementRule) {entitlements : List Entitlement}
    (hne : entitlements ≠ []) (p : Principal) :
    rule.entitled (commonEntitlement entitlements) p = true ↔ SharedGrant rule entitlements p := by
  constructor
  · intro hgrant
    have hstated := rule.stated_of_entitled hgrant
    have hjoined := (rule.entitled_iff_joined p hstated).mp hgrant
    rw [tenantHolds_common_iff _ hne, roleHolds_common_iff, directHolds_common_iff _ hne] at hjoined
    exact ⟨(commonEntitlement_state _).mp hstated, hjoined⟩
  · intro hshared
    rw [rule.entitled_iff_joined p ((commonEntitlement_state _).mpr hshared.stated),
      tenantHolds_common_iff _ hne, roleHolds_common_iff, directHolds_common_iff _ hne]
    exact hshared.clauses

/-! ## Whom the shared fields let in -/

/-- The entitlements name no tenant in common, which the rule reads as unrestricted, and this one
names tenants but not the principal's. -/
structure TenantsOpened (rule : EntitlementRule) (entitlements : List Entitlement)
    (e : Entitlement) (p : Principal) : Prop where
  clause : rule.tenant = .memberOrUnrestricted
  unshared : ∀ tenant, ∃ other ∈ entitlements, tenant ∉ other.tenants
  restricted : e.tenants ≠ ∅
  excluded : ∀ tenant ∈ p.tenant, tenant ∉ e.tenants

/-- The roles that are left admit the principal, and those of this entitlement do not. -/
structure RolesOpened (rule : EntitlementRule) (entitlements : List Entitlement)
    (e : Entitlement) (p : Principal) : Prop where
  admitted : RoleShared rule.role entitlements p
  excluded : roleHolds rule.role e p = false

/-- The shared fields grant a principal whom one of the entitlements denies, by its tenants or by
its roles. -/
def LetIn (rule : EntitlementRule) (entitlements : List Entitlement) (p : Principal) : Prop :=
  SharedGrant rule entitlements p ∧ ∃ e ∈ entitlements, rule.entitled e p = false ∧
    (TenantsOpened rule entitlements e p ∨ RolesOpened rule entitlements e p)

/-- A tenant clause that holds of the shared tenants and not of an entitlement's own reads the
former as unrestricted. -/
theorem tenantsOpened_of_tenantShared {rule : EntitlementRule} {entitlements : List Entitlement}
    {e : Entitlement} (he : e ∈ entitlements) {p : Principal}
    (hshared : TenantShared rule.tenant entitlements p)
    (hexcluded : tenantHolds rule.tenant e p = false) : TenantsOpened rule entitlements e p := by
  unfold tenantHolds at hexcluded
  by_cases hignored : rule.tenant = .ignored
  · simp [hignored] at hexcluded
  rw [if_neg hignored] at hexcluded
  have hnot : ∀ tenant ∈ p.tenant, tenant ∉ e.tenants := by
    intro tenant htenant hnamed
    rw [if_neg (Finset.ne_empty_of_mem hnamed), htenant] at hexcluded
    exact of_decide_eq_false hexcluded hnamed
  rcases hshared with h | ⟨tenant, htenant, hall⟩ | ⟨hclause, hunshared⟩
  · exact absurd h hignored
  · exact absurd (hall e he) (hnot tenant htenant)
  · refine ⟨hclause, hunshared, fun hempty => ?_, hnot⟩
    rw [if_pos hempty] at hexcluded
    exact of_decide_eq_false hexcluded hclause

/-- A principal whom the shared fields grant past an entitlement is let in by tenants that read
as unrestricted or by roles that the entitlement does not admit. -/
theorem opened_of_sharedGrant {rule : EntitlementRule} {entitlements : List Entitlement}
    {e : Entitlement} (he : e ∈ entitlements) {p : Principal}
    (hshared : SharedGrant rule entitlements p) (hdeny : rule.entitled e p = false) :
    TenantsOpened rule entitlements e p ∨ RolesOpened rule entitlements e p := by
  by_contra hneither
  rw [not_or] at hneither
  have htenant : TenantShared rule.tenant entitlements p → tenantHolds rule.tenant e p = true := by
    intro h
    by_contra hexcluded
    exact hneither.1 (tenantsOpened_of_tenantShared he h (Bool.eq_false_iff.mpr hexcluded))
  have hrole : RoleShared rule.role entitlements p → roleHolds rule.role e p = true := by
    intro h
    by_contra hexcluded
    exact hneither.2 ⟨h, Bool.eq_false_iff.mpr hexcluded⟩
  have hdirect : DirectShared rule.direct entitlements p →
      directHolds rule.direct e p = true := by
    intro h
    simp [directHolds, h.1, h.2 e he]
  have hgrant := (rule.entitled_iff_joined p (hshared.stated e he)).mpr
    (hshared.clauses.mono htenant hrole hdirect)
  rw [hdeny] at hgrant
  cases hgrant

/-- The shared fields let a principal in exactly when they grant one whom an entitlement
denies. -/
theorem letIn_iff (rule : EntitlementRule) (entitlements : List Entitlement) (p : Principal) :
    LetIn rule entitlements p ↔
      SharedGrant rule entitlements p ∧ ∃ e ∈ entitlements, rule.entitled e p = false := by
  constructor
  · intro hletIn
    rcases hletIn with ⟨hshared, e, he, hdeny, -⟩
    exact ⟨hshared, e, he, hdeny⟩
  · intro hgranted
    rcases hgranted with ⟨hshared, e, he, hdeny⟩
    exact ⟨hshared, e, he, hdeny, opened_of_sharedGrant he hshared hdeny⟩

/-! ## Whom the shared fields shut out -/

end Tearline
