import Tearline.SharedFields

/-!
# Where the safe bound can be trusted

The folded roles of a list of sources start afresh where they have become empty.  As long as
one role belongs to every source they never do, and the fold stays within each of them.

Main results:

- Theorem {lit}`commonRoles_subset`: folded roles with a common role are within every source.
- Theorem {lit}`safeBound_trusted`: a rule and a list of sources for which the safe bound
  grants nobody whom a source denies.
-/

namespace Tearline

/-- Roles folded over sources that share one stay within every source. -/
theorem commonRoles_subset {entitlements : List Entitlement} {role : String}
    (hshared : ∀ e ∈ entitlements, role ∈ e.roles) {e : Entitlement} (he : e ∈ entitlements) :
    commonRoles entitlements ⊆ e.roles := by
  have hroles : ∀ roles ∈ entitlements.map Entitlement.roles, role ∈ roles := by
    intro roles hmem
    rcases List.mem_map.mp hmem with ⟨other, hother, rfl⟩
    exact hshared other hother
  have hshares : RunningMeet.Shares (entitlements.map Entitlement.roles) :=
    ⟨{role}, Finset.singleton_ne_empty role, fun roles hmem =>
      Finset.singleton_subset_iff.mpr (hroles roles hmem)⟩
  have hmem : e.roles ∈ entitlements.map Entitlement.roles := List.mem_map_of_mem he
  rw [commonRoles_eq_running]
  exact (RunningMeet.isGLB_running
    (fun roles h => Finset.ne_empty_of_mem (hroles roles h)) (List.ne_nil_of_mem hmem)
    hshares).1.1 hmem

/-- The rule reads an empty tenant set as nobody, and reads the roles of the sources by
intersection where they share one, or not at all. -/
structure BoundTrusted (rule : EntitlementRule) (entitlements : List Entitlement) : Prop where
  tenant : rule.tenant = .member ∨ rule.tenant = .ignored
  role : rule.role = .ignored ∨
    (rule.role = .intersects ∨ rule.role = .intersectsOrEveryone) ∧
      ∃ role, ∀ e ∈ entitlements, role ∈ e.roles

/-- Under a trusted rule a role clause the folded roles meet is met by every source. -/
theorem BoundTrusted.roleHolds {rule : EntitlementRule} {entitlements : List Entitlement}
    (htrusted : BoundTrusted rule entitlements) {e : Entitlement} (he : e ∈ entitlements)
    {p : Principal} (h : roleHolds rule.role (commonEntitlement entitlements) p = true) :
    roleHolds rule.role e p = true := by
  rcases htrusted.role with hignored | ⟨hclause, role, hshared⟩
  · simp [Tearline.roleHolds, hignored]
  · refine roleHolds_of_subset ?_ (commonRoles_subset hshared he) h
    rcases hclause with hclause | hclause <;> simp [hclause]

/-- Where the rule and the sources are trusted, the shared fields let nobody in. -/
theorem BoundTrusted.not_letIn {rule : EntitlementRule} {entitlements : List Entitlement}
    (htrusted : BoundTrusted rule entitlements) (p : Principal) :
    ¬ LetIn rule entitlements p := by
  rintro ⟨-, e, he, -, hopened | hopened⟩
  · have hclause := hopened.clause
    rcases htrusted.tenant with htenant | htenant <;> simp [htenant] at hclause
  · have hheld := htrusted.roleHolds he ((roleHolds_common_iff _ _ _).mpr hopened.admitted)
    rw [hopened.excluded] at hheld
    cases hheld

/-- Where the rule and the sources are trusted, whom the safe bound grants every source
grants. -/
theorem safeBound_trusted {rule : EntitlementRule} {entitlements : List Entitlement}
    {bound : Entitlement} (hbound : safeBound entitlements = some bound)
    (htrusted : BoundTrusted rule entitlements) (p : Principal)
    (hgrant : rule.entitled bound p = true) : entitledByAll rule entitlements p = true := by
  rw [entitled_safeBound rule hbound] at hgrant
  rw [entitledByAll_eq_true_iff]
  constructor
  · intro hempty
    subst hempty
    cases hbound
  · intro e he
    refine entitled_of_common rule he ?_ (htrusted.roleHolds he) hgrant
    intro hclause
    rcases htrusted.tenant with htenant | htenant <;> simp [htenant] at hclause

/-- Two sources that share a role. -/
def sharedRole : List Entitlement :=
  [{ state := .stated, roles := {"hr", "legal"} }, { state := .stated, roles := {"hr"} }]

theorem safeBound_trusted_sharedRole :
    entitledByAll rolesRule sharedRole (holderOf "hr") = true := by
  have hbound : safeBound sharedRole = some { state := .stated, roles := {"hr"} } := by
    decide +kernel
  have htrusted : BoundTrusted rolesRule sharedRole :=
    ⟨.inr rfl, .inr ⟨.inl rfl, "hr", by decide +kernel⟩⟩
  exact safeBound_trusted hbound htrusted (holderOf "hr") (by decide +kernel)

end Tearline
