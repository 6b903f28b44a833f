import Mathlib.Data.Finset.Lattice.Basic
import Tearline.Library.RunningMeet
import Tearline.SafeBound
import Tearline.Verify.Propagation

/-!
# The order of a chunk's sources

The safe bound of several sources is a left fold.  Tenants and direct grants do not depend on
the order in which a chunk lists its sources; the roles are a running meet that starts afresh
when nothing is left, and may.

Main results:

- Theorem {lit}`boundOrderFree_iff`: when the safe bound does not depend on the order.
- Theorem {lit}`sourceOrder_iff`: when the bound and the finding do not depend on it.
-/

namespace Tearline

/-! ## The safe bound -/

/-- Every order of the entitlements gives a bound that grants the same principals. -/
def BoundOrderFree (entitlements : List Entitlement) : Prop :=
  ∀ reordered, reordered.Perm entitlements → ∀ bound bound',
    safeBound entitlements = some bound → safeBound reordered = some bound' →
      ∀ (rule : EntitlementRule) (principal : Principal),
        rule.entitled bound' principal = rule.entitled bound principal

/-- All entitlements are stated, and the role sets that name a role can be divided into groups
without a common role that have one but for their last member, at least one of them, and a
group with a common role. -/
def RolesDivide (entitlements : List Entitlement) : Prop :=
  (∀ e ∈ entitlements, e.state = .stated) ∧
    RunningMeet.Divides ((entitlements.map Entitlement.roles).filter (· ≠ ∅))

/-- Meeting role sets is a running meet. -/
theorem meetRoles_eq_meet (a b : Finset String) : meetRoles a b = RunningMeet.meet a b := by
  unfold meetRoles RunningMeet.meet
  by_cases ha : a = ∅
  · simp [ha]
  · by_cases hb : b = ∅
    · simp [ha, hb]
    · simp [ha, hb]

theorem commonRoles_eq_running (entitlements : List Entitlement) :
    commonRoles entitlements = RunningMeet.running (entitlements.map Entitlement.roles) := by
  simp only [commonRoles, RunningMeet.running, List.foldl_map, meetRoles_eq_meet]
  rfl

/-- What is common does not depend on the order. -/
theorem commonOf_perm (field : Entitlement → Finset String) {entitlements reordered :
    List Entitlement} (hperm : reordered.Perm entitlements) :
    commonOf field reordered = commonOf field entitlements := by
  ext x
  rw [mem_commonOf, mem_commonOf]
  refine and_congr (not_congr ?_) (forall_congr' fun e => imp_congr_left hperm.mem_iff)
  constructor
  · rintro rfl
    exact hperm.symm.eq_nil
  · rintro rfl
    exact hperm.eq_nil

/-- A reordering of mapped items is a reordering of the items, mapped. -/
private theorem exists_perm_of_perm_map {α β : Type} {f : α → β} {ys : List β} {xs : List α}
    (hperm : ys.Perm (xs.map f)) : ∃ zs : List α, ys = zs.map f ∧ zs.Perm xs :=
  (congrFun (congrFun (List.eq_map_comp_perm f) ys) xs).mpr hperm

private theorem eq_of_perm_of_length_le_one {α : Type} {xs ys : List α} (hperm : ys.Perm xs)
    (hfew : xs.length ≤ 1) : ys = xs := by
  match xs with
  | [] => exact hperm.eq_nil
  | [x] => exact List.perm_singleton.mp hperm
  | x :: y :: rest => simp at hfew

/-- The common roles do not depend on the order exactly when the role sets that name a role
cannot be divided. -/
theorem commonRoles_perm_iff (entitlements : List Entitlement) :
    (∀ reordered, reordered.Perm entitlements →
        commonRoles reordered = commonRoles entitlements) ↔
      ¬ RunningMeet.Divides ((entitlements.map Entitlement.roles).filter (· ≠ ∅)) := by
  rw [← Finset.bot_eq_empty, ← RunningMeet.running_perm_iff]
  simp only [commonRoles_eq_running]
  constructor
  · intro hsame roles hperm
    rcases exists_perm_of_perm_map hperm with ⟨reordered, rfl, hreordered⟩
    exact hsame reordered hreordered
  · intro hsame reordered hperm
    exact hsame _ (hperm.map Entitlement.roles)

/-- A rule that reads the roles alone. -/
def rolesRule : EntitlementRule where
  system := "roles"
  tenant := .ignored
  role := .intersects
  direct := .ignored
  combine := .tenantAndRole

/-- Someone with a single role. -/
def holderOf (role : String) : Principal where
  id := role
  label := role
  roles := {role}

/-- The rule entitles the holder of a single role exactly where it is named. -/
theorem entitled_holderOf_iff (ent : Entitlement) (role : String) :
    rolesRule.entitled ent (holderOf role) = true ↔ ent.state = .stated ∧ role ∈ ent.roles := by
  by_cases hempty : ent.roles = ∅
  · simp [EntitlementRule.entitled, rolesRule, tenantHolds, roleHolds, Combinator.combine, hempty]
  · simp [EntitlementRule.entitled, rolesRule, tenantHolds, roleHolds, Combinator.combine, hempty,
      holderOf, Finset.inter_singleton]

theorem safeBound_perm_isSome {entitlements reordered : List Entitlement} {bound : Entitlement}
    (hperm : reordered.Perm entitlements) (hbound : safeBound entitlements = some bound) :
    ∃ bound', safeBound reordered = some bound' := by
  apply safeBound_isSome
  intro hempty
  rw [hempty] at hperm
  rw [hperm.nil_eq.symm] at hbound
  cases hbound

/-- The common entitlement of reordered entitlements with the same common roles grants the
same principals. -/
theorem entitled_commonEntitlement_perm {entitlements reordered : List Entitlement}
    (hperm : reordered.Perm entitlements)
    (hroles : commonRoles reordered = commonRoles entitlements) (rule : EntitlementRule)
    (principal : Principal) :
    rule.entitled (commonEntitlement reordered) principal =
      rule.entitled (commonEntitlement entitlements) principal := by
  refine rule.entitled_congr principal ?_ (commonOf_perm _ hperm) hroles (commonOf_perm _ hperm)
  simp only [commonEntitlement, hperm.mem_iff]

/-- The safe bound does not depend on the order of the entitlements exactly when it is not the
case that all are stated and their roles can be divided. -/
theorem boundOrderFree_iff (entitlements : List Entitlement) :
    BoundOrderFree entitlements ↔ ¬ RolesDivide entitlements := by
  constructor
  · intro hfree hroles
    rcases hroles with ⟨hstated, hdivides⟩
    refine (commonRoles_perm_iff entitlements).mp (fun reordered hperm => ?_) hdivides
    by_cases hempty : entitlements = []
    · subst hempty
      rw [hperm.eq_nil]
    rcases safeBound_isSome hempty with ⟨bound, hbound⟩
    rcases safeBound_perm_isSome hperm hbound with ⟨bound', hbound'⟩
    have hreordered : ∀ e ∈ reordered, e.state = .stated := fun e he =>
      hstated e (hperm.subset he)
    ext role
    have hgrants := hfree reordered hperm bound bound' hbound hbound' rolesRule (holderOf role)
    rw [entitled_safeBound rolesRule hbound, entitled_safeBound rolesRule hbound',
      Bool.eq_iff_iff, entitled_holderOf_iff, entitled_holderOf_iff,
      commonEntitlement_state, commonEntitlement_state, and_iff_right hreordered,
      and_iff_right hstated] at hgrants
    exact hgrants
  · intro hwhole reordered hperm bound bound' hbound hbound' rule principal
    rw [entitled_safeBound rule hbound, entitled_safeBound rule hbound']
    by_cases hstated : ∀ e ∈ entitlements, e.state = .stated
    · refine entitled_commonEntitlement_perm hperm ?_ rule principal
      exact (commonRoles_perm_iff entitlements).mpr (fun h => hwhole ⟨hstated, h⟩) reordered hperm
    · have hunknown : ∀ es : List Entitlement, es.Perm entitlements →
          (commonEntitlement es).state = .unknown := by
        intro es hes
        exact if_neg fun hall => hstated fun e he => hall e (hes.mem_iff.mpr he)
      rw [rule.entitled_of_unknown principal (hunknown _ hperm),
        rule.entitled_of_unknown principal (hunknown _ (List.Perm.refl _))]

/-! ## The finding -/

/-- The variant with a chunk in place of the one filed under its id. -/
def Variant.withChunk (variant : Variant) (chunk : Chunk) : Variant :=
  { variant with
    chunks := variant.chunks.set chunk.id chunk
    keyed := variant.keyed.set chunk }

/-- A chunk drawn from the same documents in another order. -/
def Chunk.reordered (chunk : Chunk) (ids : List String) : Chunk :=
  { chunk with sourceDocumentIds := ids }

/-- Whatever the scenario and the index, where the check completes it also completes with a
chunk of these located entitlements in any order of its sources, and gives the chunk the same
verdict and cause, or no finding. -/
def FindingOrderFree (entitlements : List Entitlement) : Prop :=
  ∀ (scenario : Scenario) (variant : Variant), ∀ chunk ∈ variant.chunks.values,
    (locatedSources scenario chunk).map SourceDocument.entitlement = entitlements →
    ∀ ids, ids.Perm chunk.sourceDocumentIds → ∀ findings untraceable,
      checkPropagation scenario variant = .ok (findings, untraceable) →
      ∃ findings' untraceable',
        checkPropagation scenario (variant.withChunk (chunk.reordered ids)) =
          .ok (findings', untraceable') ∧
        ∀ verdict cause,
          (∃ f ∈ findings', f.chunkId = chunk.id ∧ f.verdict = verdict ∧ f.cause = cause) ↔
            ∃ f ∈ findings, f.chunkId = chunk.id ∧ f.verdict = verdict ∧ f.cause = cause

theorem mem_values_withChunk (variant : Variant) (chunk : Chunk) :
    chunk ∈ (variant.withChunk chunk).chunks.values :=
  Dict.mem_values_of_get? ((Dict.get?_set variant.chunks chunk.id chunk.id chunk).trans
    (if_pos rfl))

/-- Every other chunk of the index was there before. -/
theorem eq_or_mem_of_mem_withChunk {variant : Variant} {chunk other : Chunk}
    (hother : other ∈ (variant.withChunk chunk).chunks.values) :
    other = chunk ∨ other ∈ variant.chunks.values := by
  rcases (Dict.mem_values_iff _ _).mp hother with ⟨key, hkey⟩
  rw [Variant.withChunk, Dict.get?_set] at hkey
  split at hkey
  · exact Or.inl (Option.some.inj hkey).symm
  · exact Or.inr (Dict.mem_values_of_get? hkey)

/-- The sources of a reordered chunk are located in the new order. -/
theorem locatedSources_reordered (scenario : Scenario) {chunk : Chunk} {ids : List String}
    (hperm : ids.Perm chunk.sourceDocumentIds) :
    (locatedSources scenario (chunk.reordered ids)).Perm (locatedSources scenario chunk) :=
  hperm.filterMap _

/-- A chunk with at most one located source is checked alike in every order. -/
theorem checkChunk_reordered_of_few {scenario : Scenario} {chunk : Chunk} {ids : List String}
    (hperm : ids.Perm chunk.sourceDocumentIds)
    (hfew : (locatedSources scenario chunk).length ≤ 1) :
    checkChunk scenario (chunk.reordered ids) = checkChunk scenario chunk := by
  have hlocated := locatedSources_reordered scenario hperm
  unfold checkChunk
  match hsources : locatedSources scenario chunk with
  | [] =>
      rw [hsources] at hlocated
      rw [hlocated.eq_nil]
      rfl
  | [source] =>
      rw [hsources, List.perm_singleton] at hlocated
      rw [hlocated]
      rfl
  | first :: second :: rest => simp [hsources] at hfew

/-- A chunk that can be checked can be checked in every order of its sources. -/
theorem checkChunk_reordered_isOk {scenario : Scenario} {chunk : Chunk} {ids : List String}
    (hperm : ids.Perm chunk.sourceDocumentIds)
    (hok : ∃ outcome, checkChunk scenario chunk = .ok outcome) :
    ∃ outcome, checkChunk scenario (chunk.reordered ids) = .ok outcome := by
  by_cases hfew : (locatedSources scenario chunk).length ≤ 1
  · rw [checkChunk_reordered_of_few hperm hfew]
    exact hok
  have hseveral : 2 ≤ (locatedSources scenario (chunk.reordered ids)).length := by
    rw [(locatedSources_reordered scenario hperm).length_eq]
    omega
  rcases checkChunk_of_several hseveral with ⟨-, f, -, hf, -⟩
  exact ⟨some f, hf⟩

/-- A check that completes does so in every order of a chunk's sources. -/
theorem checkPropagation_reordered_isOk {scenario : Scenario} {variant : Variant}
    {findings : List PropagationFinding} {untraceable : Nat}
    (hcheck : checkPropagation scenario variant = .ok (findings, untraceable)) {chunk : Chunk}
    (hchunk : chunk ∈ variant.chunks.values) {ids : List String}
    (hperm : ids.Perm chunk.sourceDocumentIds) :
    ∃ findings' untraceable',
      checkPropagation scenario (variant.withChunk (chunk.reordered ids)) =
        .ok (findings', untraceable') := by
  have hcompletes := (checkPropagation_isOk_iff scenario variant).mp ⟨_, hcheck⟩
  have hreordered : ∃ out,
      checkPropagation scenario (variant.withChunk (chunk.reordered ids)) = .ok out := by
    rw [checkPropagation_isOk_iff]
    intro other hother
    rcases eq_or_mem_of_mem_withChunk hother with rfl | hheld
    · exact checkChunk_reordered_isOk hperm (hcompletes chunk hchunk)
    · exact hcompletes other hheld
  rcases hreordered with ⟨⟨findings', untraceable'⟩, hcheck'⟩
  exact ⟨findings', untraceable', hcheck'⟩

/-- Bounds that grant the same principals are exceeded by the same tags. -/
theorem withinBound_congr {scenario : Scenario} {bound bound' : Entitlement}
    (hgrants : ∀ p, scenario.rule.entitled bound' p = scenario.rule.entitled bound p)
    (tag : Entitlement) (principals : List Principal) :
    withinBound scenario tag bound' principals = withinBound scenario tag bound principals := by
  simp only [withinBound, hgrants]

/-- A chunk whose bound does not depend on the order gets the same verdict and cause in every
order. -/
theorem checkChunk_reordered {scenario : Scenario} {chunk : Chunk} {ids : List String}
    (hperm : ids.Perm chunk.sourceDocumentIds)
    (hfree : BoundOrderFree ((locatedSources scenario chunk).map SourceDocument.entitlement))
    (verdict : Verdict) (cause : MismatchCause) :
    (∃ f, checkChunk scenario (chunk.reordered ids) = .ok (some f) ∧ f.verdict = verdict ∧
        f.cause = cause) ↔
      ∃ f, checkChunk scenario chunk = .ok (some f) ∧ f.verdict = verdict ∧ f.cause = cause := by
  by_cases hfew : (locatedSources scenario chunk).length ≤ 1
  · rw [checkChunk_reordered_of_few hperm hfew]
  have hlocated := locatedSources_reordered scenario hperm
  have hseveral : 2 ≤ (locatedSources scenario chunk).length := by omega
  have hseveral' : 2 ≤ (locatedSources scenario (chunk.reordered ids)).length := by
    rw [hlocated.length_eq]
    exact hseveral
  rcases checkChunk_of_several hseveral with ⟨bound, -, hbound, -, -⟩
  rcases checkChunk_of_several hseveral' with ⟨bound', -, hbound', -, -⟩
  have hgrants := hfree _ (hlocated.map SourceDocument.entitlement) bound bound' hbound hbound'
    scenario.rule
  rw [exists_checkChunk_of_several_iff hseveral hbound,
    exists_checkChunk_of_several_iff hseveral' hbound',
    show (chunk.reordered ids).entitlement = chunk.entitlement from rfl,
    withinBound_congr hgrants]

/-- A finding does not depend on the order where the bound does not. -/
theorem findingOrderFree_of_boundOrderFree {entitlements : List Entitlement}
    (hfree : BoundOrderFree entitlements) : FindingOrderFree entitlements := by
  intro scenario variant chunk hchunk hentitlements ids hperm findings untraceable hcheck
  subst hentitlements
  rcases checkPropagation_reordered_isOk hcheck hchunk hperm with
    ⟨findings', untraceable', hcheck'⟩
  refine ⟨findings', untraceable', hcheck', ?_⟩
  intro verdict cause
  have hreported := exists_finding_iff hcheck hchunk fun f =>
    f.verdict = verdict ∧ f.cause = cause
  have hreported' := exists_finding_iff hcheck'
    (mem_values_withChunk variant (chunk.reordered ids)) fun f =>
      f.verdict = verdict ∧ f.cause = cause
  rw [hreported, ← checkChunk_reordered hperm hfree]
  exact hreported'

/-! ## A chunk whose finding depends on the order -/

/-- A name for a number. -/
def nameOf (n : Nat) : String :=
  String.ofList (List.replicate n 'd')

theorem nameOf_injective : Function.Injective nameOf := by
  intro m n hname
  have hlength := congrArg String.length hname
  simpa [nameOf] using hlength

/-- One document for each entitlement of a list. -/
def numbered (entitlements : List Entitlement) : List SourceDocument :=
  entitlements.mapIdx fun n e => { id := nameOf n, system := "roles", entitlement := e }

theorem numbered_map_entitlement (entitlements : List Entitlement) :
    (numbered entitlements).map SourceDocument.entitlement = entitlements := by
  apply List.ext_getElem (by simp [numbered])
  intro n _ _
  simp [numbered]

theorem numbered_map_id_nodup (entitlements : List Entitlement) :
    ((numbered entitlements).map SourceDocument.id).Nodup := by
  have hids : (numbered entitlements).map SourceDocument.id =
      (List.range entitlements.length).map nameOf := by
    apply List.ext_getElem (by simp [numbered])
    intro n _ _
    simp [numbered]
  rw [hids]
  exact List.nodup_range.map nameOf_injective

/-- A source system of the numbered documents and one principal with a single role. -/
def orderScenario (entitlements : List Entitlement) (role : String) : Scenario :=
  Scenario.ofLists "order" (numbered entitlements) [holderOf role] [] rolesRule

/-- A chunk of some of the documents, tagged with the principal's role. -/
def orderChunk (documents : List SourceDocument) (role : String) : Chunk where
  id := "c-order"
  sourceDocumentIds := documents.map SourceDocument.id
  entitlement := { state := .stated, roles := {role} }

/-- The chunk's sources are the documents it was drawn from. -/
theorem locatedSources_orderChunk {entitlements : List Entitlement} (role : String)
    {documents : List SourceDocument} (hdocuments : documents ⊆ numbered entitlements) :
    locatedSources (orderScenario entitlements role) (orderChunk documents role) = documents := by
  have hfound : ∀ document ∈ documents,
      (orderScenario entitlements role).documents.get? document.id = some document :=
    fun document hdocument => (Dict.get?_ofValues_eq_some_iff
      (numbered_map_id_nodup entitlements) _ _).mpr ⟨hdocuments hdocument, rfl⟩
  rw [locatedSources, orderChunk, List.filterMap_map]
  exact (List.filterMap_congr hfound).trans List.filterMap_some

/-- The tag of such a chunk is within a bound that grants the one principal. -/
theorem withinBound_orderChunk (entitlements : List Entitlement) (role : String)
    (documents : List SourceDocument) (bound : Entitlement) :
    withinBound (orderScenario entitlements role) (orderChunk documents role).entitlement bound
        (orderScenario entitlements role).principals.values =
      rolesRule.entitled bound (holderOf role) := by
  have hholder : (orderScenario entitlements role).principals.values = [holderOf role] :=
    Dict.values_ofValues_of_nodup (List.nodup_singleton _)
  have htag : rolesRule.entitled (orderChunk documents role).entitlement (holderOf role) = true :=
    (entitled_holderOf_iff _ role).mpr ⟨rfl, Finset.mem_singleton_self role⟩
  rw [hholder, withinBound, List.all_cons, List.all_nil, Bool.and_true]
  change (!rolesRule.entitled (orderChunk documents role).entitlement (holderOf role) || _) = _
  rw [htag]
  rfl

/-- A chunk of several stated documents is unverifiable when the role is common to them, and
contradicted otherwise. -/
theorem checkChunk_orderChunk {entitlements : List Entitlement} (role : String)
    {documents : List SourceDocument} (hdocuments : documents ⊆ numbered entitlements)
    (hseveral : 2 ≤ documents.length)
    (hstated : ∀ document ∈ documents, document.entitlement.state = .stated) :
    (∃ f, checkChunk (orderScenario entitlements role) (orderChunk documents role) =
        .ok (some f) ∧ f.verdict = .unverifiable ∧ f.cause = .indeterminateSource) ↔
      role ∈ commonRoles (documents.map SourceDocument.entitlement) := by
  have hlocated := locatedSources_orderChunk role hdocuments
  have hlength : 2 ≤ (locatedSources (orderScenario entitlements role)
      (orderChunk documents role)).length := by
    rw [hlocated]
    exact hseveral
  rcases checkChunk_of_several hlength with ⟨bound, -, hbound, -, -⟩
  rw [exists_checkChunk_of_several_iff hlength hbound, withinBound_orderChunk]
  rw [hlocated] at hbound
  have hcommon : rolesRule.entitled bound (holderOf role) = true ↔
      role ∈ commonRoles (documents.map SourceDocument.entitlement) := by
    rw [entitled_safeBound rolesRule hbound, entitled_holderOf_iff, commonEntitlement_state]
    exact and_iff_right (by simpa using hstated)
  rw [← hcommon]
  cases rolesRule.entitled bound (holderOf role) <;> simp [boundFinding]

/-- So it is reported in every index that holds it and can be checked. -/
theorem reported_orderChunk_iff {entitlements : List Entitlement} (role : String)
    {documents : List SourceDocument} (hdocuments : documents ⊆ numbered entitlements)
    (hseveral : 2 ≤ documents.length)
    (hstated : ∀ document ∈ documents, document.entitlement.state = .stated)
    {variant : Variant} (hchunk : orderChunk documents role ∈ variant.chunks.values)
    {findings : List PropagationFinding} {untraceable : Nat}
    (hcheck : checkPropagation (orderScenario entitlements role) variant =
      .ok (findings, untraceable)) :
    (∃ f ∈ findings, f.chunkId = (orderChunk documents role).id ∧ f.verdict = .unverifiable ∧
        f.cause = .indeterminateSource) ↔
      role ∈ commonRoles (documents.map SourceDocument.entitlement) := by
  rw [← checkChunk_orderChunk role hdocuments hseveral hstated]
  exact exists_finding_iff hcheck hchunk fun f =>
    f.verdict = .unverifiable ∧ f.cause = .indeterminateSource

/-- The index that holds one such chunk. -/
def orderIndex (documents : List SourceDocument) (role : String) : Variant :=
  Variant.ofChunks "live" [orderChunk documents role] "rule" none

theorem mem_values_orderIndex (documents : List SourceDocument) (role : String) (chunk : Chunk) :
    chunk ∈ (orderIndex documents role).chunks.values ↔ chunk = orderChunk documents role := by
  have hvalues : (orderIndex documents role).chunks.values = [orderChunk documents role] :=
    Dict.values_ofValues_of_nodup (List.nodup_singleton _)
  rw [hvalues, List.mem_singleton]

/-- The check of this index completes. -/
theorem checkPropagation_orderIndex_isOk {entitlements : List Entitlement} (role : String)
    (hseveral : 2 ≤ (numbered entitlements).length) :
    ∃ findings untraceable,
      checkPropagation (orderScenario entitlements role)
        (orderIndex (numbered entitlements) role) = .ok (findings, untraceable) := by
  have hcompletes : ∃ out, checkPropagation (orderScenario entitlements role)
      (orderIndex (numbered entitlements) role) = .ok out := by
    rw [checkPropagation_isOk_iff]
    intro chunk hchunk
    rw [(mem_values_orderIndex _ role chunk).mp hchunk]
    rw [← locatedSources_orderChunk role (List.Subset.refl _)] at hseveral
    rcases checkChunk_of_several hseveral with ⟨-, f, -, hf, -⟩
    exact ⟨some f, hf⟩
  rcases hcompletes with ⟨⟨findings, untraceable⟩, hcheck⟩
  exact ⟨findings, untraceable, hcheck⟩

/-- Where no finding depends on the order, neither do the common roles. -/
theorem commonRoles_perm_of_findingOrderFree {entitlements : List Entitlement}
    (hfree : FindingOrderFree entitlements) (hstated : ∀ e ∈ entitlements, e.state = .stated)
    {reordered : List Entitlement} (hperm : reordered.Perm entitlements) :
    commonRoles reordered = commonRoles entitlements := by
  by_cases hfew : entitlements.length ≤ 1
  · rw [eq_of_perm_of_length_le_one hperm hfew]
  have hmap := numbered_map_entitlement entitlements
  rw [← hmap] at hperm
  rcases exists_perm_of_perm_map hperm with ⟨other, rfl, hother⟩
  have hseveral : 2 ≤ (numbered entitlements).length := by
    rw [← hmap, List.length_map] at hfew
    omega
  have hseveral' : 2 ≤ other.length := by
    rw [hother.length_eq]
    exact hseveral
  have hnumbered : ∀ document ∈ numbered entitlements, document.entitlement.state = .stated :=
    fun document hdocument => hstated _ (hmap ▸ List.mem_map_of_mem hdocument)
  ext role
  have hall := List.Subset.refl (numbered entitlements)
  have hchunk := (mem_values_orderIndex (numbered entitlements) role _).mpr rfl
  have hlocated := locatedSources_orderChunk role hall
  rcases checkPropagation_orderIndex_isOk role hseveral with ⟨findings, untraceable, hcheck⟩
  rcases hfree _ _ _ hchunk (by rw [hlocated, hmap]) (other.map SourceDocument.id)
    (hother.map _) findings untraceable hcheck with ⟨findings', untraceable', hcheck', hsame⟩
  have hlisted := reported_orderChunk_iff role hall hseveral hnumbered hchunk hcheck
  rw [hmap] at hlisted
  have hpermuted := reported_orderChunk_iff role hother.subset hseveral'
    (fun document hdocument => hnumbered document (hother.subset hdocument))
    (mem_values_withChunk _ (orderChunk other role)) hcheck'
  calc role ∈ commonRoles (other.map SourceDocument.entitlement)
      ↔ _ := hpermuted.symm
    _ ↔ _ := hsame .unverifiable .indeterminateSource
    _ ↔ role ∈ commonRoles entitlements := hlisted

/-- Neither the bound nor any finding depends on the order of the sources exactly when it is
not the case that all are stated and their roles can be divided. -/
theorem sourceOrder_iff (entitlements : List Entitlement) :
    (BoundOrderFree entitlements ↔ ¬ RolesDivide entitlements) ∧
      (FindingOrderFree entitlements ↔ ¬ RolesDivide entitlements) := by
  refine ⟨boundOrderFree_iff entitlements, fun hfree => ?_, fun hwhole => ?_⟩
  · intro hroles
    rcases hroles with ⟨hstated, hdivides⟩
    exact (commonRoles_perm_iff entitlements).mp
      (fun _ hperm => commonRoles_perm_of_findingOrderFree hfree hstated hperm) hdivides
  · exact findingOrderFree_of_boundOrderFree ((boundOrderFree_iff entitlements).mpr hwhole)

/-- Three documents for one role each. -/
def threeRoles : List SourceDocument :=
  numbered [{ state := .stated, roles := {"eng"} }, { state := .stated, roles := {"hr"} },
    { state := .stated, roles := {"legal"} }]

/-- A source system of the three and one of legal's readers. -/
def threeRolesScenario : Scenario :=
  Scenario.ofLists "three-roles" threeRoles [holderOf "legal"] [] rolesRule

/-- A chunk of all three, tagged for legal. -/
def threeRolesChunk : Chunk :=
  orderChunk threeRoles "legal"

/-- The finding in this order. -/
def threeRolesFinding : PropagationFinding where
  chunkId := "c-order"
  verdict := .unverifiable
  cause := .indeterminateSource
  observed := { state := .stated, roles := {"legal"} }
  expected := some { state := .stated, roles := {"legal"} }
  detail := withinBoundDetail

/-- The finding in the reverse order. -/
def threeRolesReversedFinding : PropagationFinding where
  chunkId := "c-order"
  verdict := .contradicted
  cause := .exceedsSafeBound
  observed := { state := .stated, roles := {"legal"} }
  expected := some { state := .stated, roles := {"eng"} }
  detail := beyondBoundDetail

/-- With legal's page last the chunk is unverifiable, and with it first contradicted. -/
theorem threeRoles_order_decides :
    (∃ f, checkPropagation threeRolesScenario (Variant.ofChunks "live" [threeRolesChunk] "rule"
        none) = .ok ([f], 0) ∧ f.verdict = .unverifiable) ∧
      (∃ f, checkPropagation threeRolesScenario (Variant.ofChunks "live"
        [threeRolesChunk.reordered threeRolesChunk.sourceDocumentIds.reverse] "rule" none) =
          .ok ([f], 0) ∧ f.verdict = .contradicted) ∧
      ¬ BoundOrderFree (threeRoles.map SourceDocument.entitlement) := by
  refine ⟨⟨threeRolesFinding, by decide +kernel, rfl⟩,
    ⟨threeRolesReversedFinding, by decide +kernel, rfl⟩, fun hfree => ?_⟩
  have hgrants := hfree (threeRoles.map SourceDocument.entitlement).reverse
    (List.reverse_perm _) { state := .stated, roles := {"legal"} }
    { state := .stated, roles := {"eng"} } (by decide +kernel) (by decide +kernel) rolesRule
    (holderOf "legal")
  exact absurd hgrants (by decide)

end Tearline
