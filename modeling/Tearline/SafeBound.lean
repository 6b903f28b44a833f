import Tearline.Rules

/-!
# The safe bound in closed form

A chunk drawn from several sources is judged through the left fold of
{lit}`Entitlement.intersect`.  Here that fold is computed field by field: tenants
and direct grants are what every source names, and roles are folded by
{lit}`meetRoles`, which is not an intersection.

Main results:

- Theorem {lit}`entitled_safeBound`: the safe bound grants what the common
  entitlement grants.
- Theorem {lit}`entitled_of_common`: where a grant by the common entitlement is a grant by a source.
-/

namespace Tearline

/-! ## The common entitlement -/

/-- What every entitlement of a list names in a field. -/
def commonOf (field : Entitlement → Finset String) : List Entitlement → Finset String
  | [] => ∅
  | first :: rest => (field first).filter fun x => ∀ e ∈ rest, x ∈ field e

/-- The role sets of a list, folded from the left. -/
def commonRoles (entitlements : List Entitlement) : Finset String :=
  entitlements.foldl (fun roles e => meetRoles roles e.roles) ∅

/-- The safe bound, field by field. -/
def commonEntitlement (entitlements : List Entitlement) : Entitlement where
  state := if ∀ e ∈ entitlements, e.state = .stated then .stated else .unknown
  tenants := commonOf Entitlement.tenants entitlements
  roles := commonRoles entitlements
  principals := commonOf Entitlement.principals entitlements

/-- Something is common exactly when there is an entitlement and all of them name it. -/
theorem mem_commonOf (field : Entitlement → Finset String) (entitlements : List Entitlement)
    (x : String) :
    x ∈ commonOf field entitlements ↔ entitlements ≠ [] ∧ ∀ e ∈ entitlements, x ∈ field e := by
  cases entitlements with
  | nil => simp [commonOf]
  | cons first rest => simp [commonOf]

theorem commonEntitlement_state (entitlements : List Entitlement) :
    (commonEntitlement entitlements).state = .stated ↔
      ∀ e ∈ entitlements, e.state = .stated := by
  simp [commonEntitlement]

/-! ## The fold -/

/-- A role set met with no roles is kept. -/
@[simp]
theorem meetRoles_empty_left (roles : Finset String) : meetRoles ∅ roles = roles := by
  simp [meetRoles]

/-- A bound is stated exactly when both sides are. -/
theorem intersect_state (a b : Entitlement) :
    (a.intersect b).state = .stated ↔ a.state = .stated ∧ b.state = .stated := by
  unfold Entitlement.intersect
  cases a.state <;> cases b.state <;> simp

/-- The bound of two stated entitlements, field by field. -/
theorem intersect_of_stated {a b : Entitlement} (ha : a.state = .stated)
    (hb : b.state = .stated) :
    a.intersect b =
      { state := .stated
        tenants := a.tenants ∩ b.tenants
        roles := meetRoles a.roles b.roles
        principals := a.principals ∩ b.principals } := by
  simp [Entitlement.intersect, ha, hb]

/-- The fold is stated exactly when everything it meets is. -/
theorem foldl_intersect_state (rest : List Entitlement) (first : Entitlement) :
    (rest.foldl Entitlement.intersect first).state = .stated ↔
      ∀ e ∈ first :: rest, e.state = .stated := by
  induction rest generalizing first with
  | nil => simp
  | cons e rest ih =>
      rw [List.foldl_cons, ih, List.forall_mem_cons, intersect_state]
      simp only [List.forall_mem_cons, and_assoc]

/-- The fold of stated entitlements, field by field. -/
theorem foldl_intersect_of_stated (rest : List Entitlement) (first : Entitlement)
    (hstated : ∀ e ∈ first :: rest, e.state = .stated) :
    (rest.foldl Entitlement.intersect first).tenants =
        first.tenants.filter (fun x => ∀ e ∈ rest, x ∈ e.tenants) ∧
      (rest.foldl Entitlement.intersect first).roles =
        rest.foldl (fun roles e => meetRoles roles e.roles) first.roles ∧
      (rest.foldl Entitlement.intersect first).principals =
        first.principals.filter (fun x => ∀ e ∈ rest, x ∈ e.principals) := by
  induction rest generalizing first with
  | nil => simp
  | cons e rest ih =>
      rw [List.forall_mem_cons, List.forall_mem_cons] at hstated
      have hmet := intersect_of_stated hstated.1 hstated.2.1
      have htail : ∀ e' ∈ first.intersect e :: rest, e'.state = .stated := by
        rw [List.forall_mem_cons, hmet]
        exact ⟨rfl, hstated.2.2⟩
      rcases ih (first.intersect e) htail with ⟨htenants, hroles, hprincipals⟩
      rw [List.foldl_cons, htenants, hroles, hprincipals, hmet]
      refine ⟨?_, rfl, ?_⟩
      · ext x
        simp [and_assoc]
      · ext x
        simp [and_assoc]

/-- The safe bound grants exactly what the common entitlement grants. -/
theorem entitled_safeBound (rule : EntitlementRule) {entitlements : List Entitlement}
    {bound : Entitlement} (h : safeBound entitlements = some bound) (principal : Principal) :
    rule.entitled bound principal =
      rule.entitled (commonEntitlement entitlements) principal := by
  cases entitlements with
  | nil => cases h
  | cons first rest =>
      cases h
      by_cases hstated : ∀ e ∈ first :: rest, e.state = .stated
      · rcases foldl_intersect_of_stated rest first hstated with ⟨htenants, hroles, hprincipals⟩
        refine rule.entitled_congr principal ?_ htenants ?_ hprincipals
        · rw [(foldl_intersect_state rest first).mpr hstated,
            (commonEntitlement_state _).mpr hstated]
        · simpa [commonEntitlement, commonRoles] using hroles
      · have hunknown : ∀ e : Entitlement, e.state ≠ .stated → e.state = .unknown := by
          intro e he
          cases hstate : e.state with
          | stated => exact absurd hstate he
          | unknown => rfl
        rw [rule.entitled_of_unknown principal (hunknown _ ?_),
          rule.entitled_of_unknown principal (hunknown _ ?_)]
        · exact fun h => hstated ((commonEntitlement_state _).mp h)
        · exact fun h => hstated ((foldl_intersect_state rest first).mp h)

/-! ## How a bound differs from its sources -/

/-- A tenant set within another admits no more, unless it is empty and reads as
unrestricted. -/
theorem tenantHolds_of_subset {clause : TenantClause} {a b : Entitlement} {p : Principal}
    (hsub : a.tenants ⊆ b.tenants)
    (hrestricted : clause = .memberOrUnrestricted → a.tenants ≠ ∅)
    (h : tenantHolds clause a p = true) : tenantHolds clause b p = true := by
  unfold tenantHolds at h ⊢
  by_cases hignored : clause = .ignored
  · simp [hignored]
  by_cases hempty : a.tenants = ∅
  · rw [if_neg hignored, if_pos hempty, decide_eq_true_eq] at h
    exact absurd hempty (hrestricted h)
  · have hother : b.tenants ≠ ∅ := fun hb => hempty (Finset.subset_empty.mp (hb ▸ hsub))
    rw [if_neg hignored, if_neg hempty] at h
    rw [if_neg hignored, if_neg hother]
    cases htenant : p.tenant with
    | none => simp [htenant] at h
    | some tenant =>
        simp only [htenant, decide_eq_true_eq] at h ⊢
        exact hsub h

/-- A role set within another admits no more, unless every role is required. -/
theorem roleHolds_of_subset {clause : RoleClause} {a b : Entitlement} {p : Principal}
    (hclause : clause ≠ .subset) (hsub : a.roles ⊆ b.roles)
    (h : roleHolds clause a p = true) : roleHolds clause b p = true := by
  unfold roleHolds at h ⊢
  by_cases hignored : clause = .ignored
  · simp [hignored]
  by_cases hempty : a.roles = ∅
  · simp [hignored, hempty] at h
  have hother : b.roles ≠ ∅ := fun hb => hempty (Finset.subset_empty.mp (hb ▸ hsub))
  rw [if_neg hignored, if_neg hempty, if_neg hclause] at h
  rw [if_neg hignored, if_neg hother, if_neg hclause]
  by_cases heveryone : clause = .intersectsOrEveryone ∧ "everyone" ∈ b.roles
  · rw [if_pos heveryone]
  · rw [if_neg fun ha => heveryone ⟨ha.1, hsub ha.2⟩, decide_eq_true_eq] at h
    rw [if_neg heveryone, decide_eq_true_eq]
    exact fun hb => h (Finset.subset_empty.mp (hb ▸ Finset.inter_subset_inter_right hsub))

/-- A set of direct grants within another grants no more. -/
theorem directHolds_of_subset {clause : DirectClause} {a b : Entitlement} {p : Principal}
    (hsub : a.principals ⊆ b.principals) (h : directHolds clause a p = true) :
    directHolds clause b p = true := by
  unfold directHolds at h ⊢
  by_cases hignored : clause = .ignored
  · simp [hignored] at h
  · rw [if_neg hignored, decide_eq_true_eq] at h ⊢
    exact hsub h

/-- What is common is within every field it is common to. -/
theorem commonOf_subset (field : Entitlement → Finset String) {entitlements : List Entitlement}
    {e : Entitlement} (he : e ∈ entitlements) : commonOf field entitlements ⊆ field e := by
  intro x hx
  exact ((mem_commonOf field entitlements x).mp hx).2 e he

/-- A grant by the common entitlement is a grant by a source whose roles admit whom the folded
roles admit, if no common tenant set reads as unrestricted. -/
theorem entitled_of_common (rule : EntitlementRule) {entitlements : List Entitlement}
    {e : Entitlement} {p : Principal} (he : e ∈ entitlements)
    (htenants : rule.tenant = .memberOrUnrestricted →
      commonOf Entitlement.tenants entitlements ≠ ∅)
    (hrole : roleHolds rule.role (commonEntitlement entitlements) p = true →
      roleHolds rule.role e p = true)
    (hgrant : rule.entitled (commonEntitlement entitlements) p = true) :
    rule.entitled e p = true := by
  have hall := (commonEntitlement_state _).mp (rule.stated_of_entitled hgrant)
  rw [rule.entitled_of_stated p ((commonEntitlement_state _).mpr hall)] at hgrant
  rw [rule.entitled_of_stated p (hall e he)]
  exact rule.combine.combine_mono
    (tenantHolds_of_subset (commonOf_subset Entitlement.tenants he) htenants) hrole
    (directHolds_of_subset (commonOf_subset Entitlement.principals he)) hgrant

end Tearline
