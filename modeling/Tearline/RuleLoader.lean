import Tearline.EntitlementRule
import Tearline.Library.Loop
import Tearline.Loading

/-!
# Loading a rule

The rule document is read clause by clause, each from its closed vocabulary.  A clause is looked
up in the vocabulary before it is known to be a text, and the document is asked for its `rule`
before it is known to be a mapping.

Main results:

- Theorem {lit}`closed_iff`: the vocabularies are those of {lit}`EntitlementRule`.
- Theorem {lit}`EntitlementRule.spelt_spelled`: a rule is read back from its texts.
- Theorem {lit}`EntitlementRule.entitled_spelled`: a rule in texts is read as the rule it spells.
- Theorem {lit}`oneWay_loadRule`: the documents on which the loader can fail in one way only.
- Theorem {lit}`parsesClosed_iff`: when the loader parses exactly the closed vocabulary.
-/

namespace Tearline

/-! ## A rule in texts -/

/-- `TENANT_CLAUSES` -/
def tenantClauses : List String :=
  ["member", "member-or-unrestricted", "ignored"]

/-- `ROLE_CLAUSES` -/
def roleClauses : List String :=
  ["intersects", "intersects-or-everyone", "subset", "ignored"]

/-- `DIRECT_CLAUSES` -/
def directClauses : List String :=
  ["principal-listed", "ignored"]

/-- `COMBINATORS` -/
def combinators : List String :=
  ["tenant AND (role OR direct)", "tenant AND role", "tenant AND role AND direct",
    "tenant OR role", "(tenant OR direct) AND role"]

/-- A rule as the loader builds it: nothing but texts. -/
structure StatedRule where
  system : String
  tenant : String
  role : String
  direct : String
  combine : String
deriving DecidableEq

/-- The source's `_tenant`, on the text of the clause. -/
def tenantReads (clause : String) (ent : Entitlement) (principal : Principal) : Bool :=
  if clause = "ignored" then true
  else if ent.tenants = ∅ then decide (clause = "member-or-unrestricted")
  else match principal.tenant with
    | none => false
    | some tenant => decide (tenant ∈ ent.tenants)

/-- The source's `_role`, on the text of the clause. -/
def roleReads (clause : String) (ent : Entitlement) (principal : Principal) : Bool :=
  if clause = "ignored" then true
  else if ent.roles = ∅ then false
  else if clause = "intersects-or-everyone" ∧ "everyone" ∈ ent.roles then true
  else if clause = "subset" then decide (ent.roles ⊆ principal.roles)
  else decide (ent.roles ∩ principal.roles ≠ ∅)

/-- The source's `_direct`, on the text of the clause. -/
def directReads (clause : String) (ent : Entitlement) (principal : Principal) : Bool :=
  if clause = "ignored" then false
  else decide (principal.id ∈ ent.principals)

/-- The source's `_combine`, which raises on a text that is no combinator. -/
def StatedRule.combined (rule : StatedRule) (tenant role direct : Bool) :
    Except LoadError Bool :=
  if rule.combine = "tenant AND (role OR direct)" then .ok (tenant && (role || direct))
  else if rule.combine = "tenant AND role" then .ok (tenant && role)
  else if rule.combine = "tenant AND role AND direct" then .ok (tenant && role && direct)
  else if rule.combine = "tenant OR role" then .ok (tenant || role)
  else if rule.combine = "(tenant OR direct) AND role" then .ok ((tenant || direct) && role)
  else .error (.ruleError (.unknownCombinator rule.combine))

/-- The source's `entitled`. -/
def StatedRule.entitled (rule : StatedRule) (ent : Entitlement) (principal : Principal) :
    Except LoadError Bool :=
  if ent.state ≠ .stated then .ok false
  else
    rule.combined (tenantReads rule.tenant ent principal) (roleReads rule.role ent principal)
      (directReads rule.direct ent principal)

/-- The source's `admitted_by_naive_filter`. -/
def StatedRule.admittedByNaiveFilter (rule : StatedRule) (ent : Entitlement)
    (principal : Principal) : Except LoadError Bool :=
  let tenant := tenantReads
    (if rule.tenant ≠ "ignored" then "member-or-unrestricted" else "ignored") ent principal
  let role := if ent.roles = ∅ then true else roleReads rule.role ent principal
  rule.combined tenant role (directReads rule.direct ent principal)

/-! ## The loader -/

/-- `value in allowed`, where the allowed values are a set of texts. -/
def isIn (value : Value) (allowed : List String) : Except Value.Error Bool :=
  if value.hashable then
    .ok (match asStr value with
      | none => false
      | some text => decide (text ∈ allowed))
  else .error .typeError

/-- Raise unless a condition holds. -/
def require (condition : Bool) (fault : RuleFault) : Except LoadError Unit :=
  if condition then .ok () else .error (.ruleError fault)

/-- The source's `_clause`. -/
def clauseOf (render : Value → String) (raw : Value) (key : String) (allowed : List String) :
    Except LoadError String := do
  let value ← read (raw.get key)
  require (!value.isNull) (.noClause key)
  let found ← read (isIn value allowed)
  require found (.clause key value)
  return textOf render value

/-- The source's `load_rule`, on the document or its absence. -/
def loadRule (render : Value → String) (document : Option Value) :
    Except LoadError StatedRule :=
  match document with
  | none => .error (.ruleError .missing)
  | some document => do
      let raw := document.orElse (.dict [])
      let rule ← read (raw.get "rule")
      require rule.isDict .noMapping
      let combine ← read (rule.get "combine")
      let found ← read (isIn combine combinators)
      require found (.combinator combine)
      let system ← read (raw.getD "system" (.str "unknown"))
      let tenant ← clauseOf render rule "tenant" tenantClauses
      let role ← clauseOf render rule "role" roleClauses
      let direct ← clauseOf render rule "direct" directClauses
      return {
        system := textOf render system
        tenant := tenant
        role := role
        direct := direct
        combine := textOf render combine }

/-! ## The rule it spells -/

/-- The text of a tenant clause. -/
def TenantClause.spelling : TenantClause → String
  | .member => "member"
  | .memberOrUnrestricted => "member-or-unrestricted"
  | .ignored => "ignored"

/-- The text of a role clause. -/
def RoleClause.spelling : RoleClause → String
  | .intersects => "intersects"
  | .intersectsOrEveryone => "intersects-or-everyone"
  | .subset => "subset"
  | .ignored => "ignored"

/-- The text of a direct clause. -/
def DirectClause.spelling : DirectClause → String
  | .principalListed => "principal-listed"
  | .ignored => "ignored"

/-- The text of a combinator. -/
def Combinator.spelling : Combinator → String
  | .tenantAndRoleOrDirect => "tenant AND (role OR direct)"
  | .tenantAndRole => "tenant AND role"
  | .tenantAndRoleAndDirect => "tenant AND role AND direct"
  | .tenantOrRole => "tenant OR role"
  | .tenantOrDirectAndRole => "(tenant OR direct) AND role"

/-- A rule in texts. -/
def EntitlementRule.spelled (rule : EntitlementRule) : StatedRule where
  system := rule.system
  tenant := rule.tenant.spelling
  role := rule.role.spelling
  direct := rule.direct.spelling
  combine := rule.combine.spelling

/-- Every clause is a member of its vocabulary. -/
structure StatedRule.Closed (rule : StatedRule) : Prop where
  tenant : rule.tenant ∈ tenantClauses
  role : rule.role ∈ roleClauses
  direct : rule.direct ∈ directClauses
  combine : rule.combine ∈ combinators

theorem mem_tenantClauses_iff (text : String) :
    text ∈ tenantClauses ↔ ∃ clause : TenantClause, clause.spelling = text := by
  constructor
  · intro hmem
    simp only [tenantClauses, List.mem_cons, List.not_mem_nil, or_false] at hmem
    rcases hmem with rfl | rfl | rfl
    · exact ⟨.member, rfl⟩
    · exact ⟨.memberOrUnrestricted, rfl⟩
    · exact ⟨.ignored, rfl⟩
  · intro hclause
    rcases hclause with ⟨clause, rfl⟩
    cases clause <;> decide

theorem mem_roleClauses_iff (text : String) :
    text ∈ roleClauses ↔ ∃ clause : RoleClause, clause.spelling = text := by
  constructor
  · intro hmem
    simp only [roleClauses, List.mem_cons, List.not_mem_nil, or_false] at hmem
    rcases hmem with rfl | rfl | rfl | rfl
    · exact ⟨.intersects, rfl⟩
    · exact ⟨.intersectsOrEveryone, rfl⟩
    · exact ⟨.subset, rfl⟩
    · exact ⟨.ignored, rfl⟩
  · intro hclause
    rcases hclause with ⟨clause, rfl⟩
    cases clause <;> decide

theorem mem_directClauses_iff (text : String) :
    text ∈ directClauses ↔ ∃ clause : DirectClause, clause.spelling = text := by
  constructor
  · intro hmem
    simp only [directClauses, List.mem_cons, List.not_mem_nil, or_false] at hmem
    rcases hmem with rfl | rfl
    · exact ⟨.principalListed, rfl⟩
    · exact ⟨.ignored, rfl⟩
  · intro hclause
    rcases hclause with ⟨clause, rfl⟩
    cases clause <;> decide

theorem mem_combinators_iff (text : String) :
    text ∈ combinators ↔ ∃ combinator : Combinator, combinator.spelling = text := by
  constructor
  · intro hmem
    simp only [combinators, List.mem_cons, List.not_mem_nil, or_false] at hmem
    rcases hmem with rfl | rfl | rfl | rfl | rfl
    · exact ⟨.tenantAndRoleOrDirect, rfl⟩
    · exact ⟨.tenantAndRole, rfl⟩
    · exact ⟨.tenantAndRoleAndDirect, rfl⟩
    · exact ⟨.tenantOrRole, rfl⟩
    · exact ⟨.tenantOrDirectAndRole, rfl⟩
  · intro hcombinator
    rcases hcombinator with ⟨combinator, rfl⟩
    cases combinator <;> decide

/-- The rules in texts whose clauses are in the vocabularies are those that spell a rule. -/
theorem closed_iff (rule : StatedRule) :
    rule.Closed ↔ ∃ spelt : EntitlementRule, spelt.spelled = rule := by
  constructor
  · intro hclosed
    rcases (mem_tenantClauses_iff _).mp hclosed.tenant with ⟨tenant, htenant⟩
    rcases (mem_roleClauses_iff _).mp hclosed.role with ⟨role, hrole⟩
    rcases (mem_directClauses_iff _).mp hclosed.direct with ⟨direct, hdirect⟩
    rcases (mem_combinators_iff _).mp hclosed.combine with ⟨combine, hcombine⟩
    refine ⟨⟨rule.system, tenant, role, direct, combine⟩, ?_⟩
    rw [EntitlementRule.spelled, htenant, hrole, hdirect, hcombine]
  · intro hspelled
    rcases hspelled with ⟨spelt, rfl⟩
    exact ⟨(mem_tenantClauses_iff _).mpr ⟨_, rfl⟩, (mem_roleClauses_iff _).mpr ⟨_, rfl⟩,
      (mem_directClauses_iff _).mpr ⟨_, rfl⟩, (mem_combinators_iff _).mpr ⟨_, rfl⟩⟩

/-- The tenant clause with a text. -/
def TenantClause.ofSpelling? (text : String) : Option TenantClause :=
  [.member, .memberOrUnrestricted, .ignored].find? fun clause => decide (clause.spelling = text)

/-- The role clause with a text. -/
def RoleClause.ofSpelling? (text : String) : Option RoleClause :=
  [.intersects, .intersectsOrEveryone, .subset, .ignored].find? fun clause =>
    decide (clause.spelling = text)

/-- The direct clause with a text. -/
def DirectClause.ofSpelling? (text : String) : Option DirectClause :=
  [.principalListed, .ignored].find? fun clause => decide (clause.spelling = text)

/-- The combinator with a text. -/
def Combinator.ofSpelling? (text : String) : Option Combinator :=
  [.tenantAndRoleOrDirect, .tenantAndRole, .tenantAndRoleAndDirect, .tenantOrRole,
    .tenantOrDirectAndRole].find? fun combinator => decide (combinator.spelling = text)

/-- The rule that a rule in texts spells, if it spells one. -/
def StatedRule.spelt (rule : StatedRule) : Option EntitlementRule := do
  let tenant ← TenantClause.ofSpelling? rule.tenant
  let role ← RoleClause.ofSpelling? rule.role
  let direct ← DirectClause.ofSpelling? rule.direct
  let combine ← Combinator.ofSpelling? rule.combine
  return {
    system := rule.system
    tenant := tenant
    role := role
    direct := direct
    combine := combine }

theorem EntitlementRule.spelt_spelled (rule : EntitlementRule) :
    rule.spelled.spelt = some rule := by
  have htenant : TenantClause.ofSpelling? rule.tenant.spelling = some rule.tenant := by
    cases rule.tenant <;> rfl
  have hrole : RoleClause.ofSpelling? rule.role.spelling = some rule.role := by
    cases rule.role <;> rfl
  have hdirect : DirectClause.ofSpelling? rule.direct.spelling = some rule.direct := by
    cases rule.direct <;> rfl
  have hcombine : Combinator.ofSpelling? rule.combine.spelling = some rule.combine := by
    cases rule.combine <;> rfl
  simp only [StatedRule.spelt, spelled, htenant, hrole, hdirect, hcombine]
  rfl

section Spelled

variable (ent : Entitlement) (p : Principal)

@[simp]
theorem tenantReads_spelling (clause : TenantClause) :
    tenantReads clause.spelling ent p = tenantHolds clause ent p := by
  cases clause <;> cases htenant : p.tenant <;>
    simp [tenantReads, tenantHolds, TenantClause.spelling, htenant]

@[simp]
theorem roleReads_spelling (clause : RoleClause) :
    roleReads clause.spelling ent p = roleHolds clause ent p := by
  cases clause <;> simp [roleReads, roleHolds, RoleClause.spelling]

@[simp]
theorem directReads_spelling (clause : DirectClause) :
    directReads clause.spelling ent p = directHolds clause ent p := by
  cases clause <;> simp [directReads, directHolds, DirectClause.spelling]

@[simp]
theorem combined_spelled (rule : EntitlementRule) (tenant role direct : Bool) :
    rule.spelled.combined tenant role direct = .ok (rule.combine.combine tenant role direct) := by
  unfold StatedRule.combined
  rw [EntitlementRule.spelled]
  cases rule.combine <;> rfl

/-- A rule in texts is read as the rule it spells, and never raises. -/
theorem EntitlementRule.entitled_spelled (rule : EntitlementRule) :
    rule.spelled.entitled ent p = .ok (rule.entitled ent p) := by
  rw [StatedRule.entitled, EntitlementRule.entitled, combined_spelled]
  simp only [spelled, tenantReads_spelling, roleReads_spelling, directReads_spelling]
  split_ifs <;> rfl

theorem EntitlementRule.admittedByNaiveFilter_spelled (rule : EntitlementRule) :
    rule.spelled.admittedByNaiveFilter ent p = .ok (rule.admittedByNaiveFilter ent p) := by
  have hnaive : (if rule.spelled.tenant ≠ "ignored" then "member-or-unrestricted"
      else "ignored") =
        (if rule.tenant ≠ .ignored then TenantClause.memberOrUnrestricted
          else .ignored).spelling := by
    rw [spelled]
    cases rule.tenant <;> rfl
  rw [StatedRule.admittedByNaiveFilter, hnaive, tenantReads_spelling]
  simp only [combined_spelled]
  simp only [spelled, roleReads_spelling, directReads_spelling]
  rfl

end Spelled

/-! ## Failing in one way -/

/-- A failure refuses the rule. -/
def OneWay {α : Type} (x : Except LoadError α) : Prop :=
  ∀ e, x = .error e → ∃ fault, e = .ruleError fault

section OneWay

variable {α β : Type}

@[simp]
theorem oneWay_ok (a : α) : OneWay (.ok a) := by
  intro e he
  cases he

@[simp]
theorem oneWay_pure (a : α) : OneWay (pure a : Except LoadError α) :=
  oneWay_ok a

@[simp]
theorem oneWay_require (condition : Bool) (fault : RuleFault) :
    OneWay (require condition fault) := by
  intro e he
  cases condition with
  | false =>
      cases he
      exact ⟨fault, rfl⟩
  | true => cases he

/-- A sequence fails in one way exactly when its steps do. -/
theorem oneWay_bind {x : Except LoadError α} {f : α → Except LoadError β} :
    OneWay (x >>= f) ↔ OneWay x ∧ ∀ a, x = .ok a → OneWay (f a) := by
  cases x with
  | error e => simp [OneWay, bind, Except.bind]
  | ok a => simp [bind, Except.bind]

/-- An operation on the document fails in one way only if it cannot fail. -/
theorem oneWay_read {x : Except Value.Error α} : OneWay (read x) ↔ ∃ a, x = .ok a := by
  cases x with
  | error e => simp [OneWay, read, Except.mapError]
  | ok a => simp [read, Except.mapError]

/-- After an operation that succeeds, what follows decides. -/
theorem oneWay_read_bind {x : Except Value.Error α} {a : α} (hx : x = .ok a)
    {f : α → Except LoadError β} : OneWay (read x >>= f) ↔ OneWay (f a) := by
  subst hx
  simp only [oneWay_bind, oneWay_read, read_eq_ok, Except.ok.injEq, exists_eq', true_and,
    forall_eq']

end OneWay

/-! ## One clause -/

open Value (field)

/-- A mapping states a member of a vocabulary under a key. -/
def StatesMember (clauses : List (Scalar × Value)) (key : String) (allowed : List String) :
    Prop :=
  ∃ text ∈ allowed, field clauses key = .str text

@[simp]
theorem require_eq_ok {condition : Bool} {fault : RuleFault} {done : Unit} :
    require condition fault = .ok done ↔ condition = true := by
  cases condition <;> simp [require]

/-- Membership is decided of the values that can be members. -/
theorem isIn_isOk_iff {value : Value} {allowed : List String} :
    (∃ found, isIn value allowed = .ok found) ↔ value.hashable = true := by
  cases hhashable : value.hashable <;> simp [isIn, hhashable]

/-- The members are the texts of the vocabulary. -/
theorem isIn_eq_true_iff {value : Value} {allowed : List String} :
    isIn value allowed = .ok true ↔ ∃ text ∈ allowed, value = .str text := by
  constructor
  · intro hfound
    unfold isIn at hfound
    split at hfound
    · cases hstr : asStr value with
      | none => simp [hstr] at hfound
      | some text => exact ⟨text, by simpa [hstr] using hfound, asStr_eq_some_iff.mp hstr⟩
    · cases hfound
  · intro hmember
    rcases hmember with ⟨text, htext, rfl⟩
    exact congrArg Except.ok (decide_eq_true htext)

section Clause

variable {render : Value → String} {clauses : List (Scalar × Value)} {key : String}
  {allowed : List String}

/-- A clause is accepted exactly when it is a member of its vocabulary. -/
theorem clauseOf_eq_ok_iff {text : String} :
    clauseOf render (.dict clauses) key allowed = .ok text ↔
      text ∈ allowed ∧ field clauses key = .str text := by
  simp only [clauseOf, Value.get_dict, Loop.bind_eq_ok, Loop.pure_eq_ok, read_eq_ok,
    Except.ok.injEq, exists_eq_left']
  constructor
  · intro haccepted
    rcases haccepted with ⟨_, -, found, hfound, _, hrequired, htext⟩
    rw [require_eq_ok] at hrequired
    subst hrequired
    rcases isIn_eq_true_iff.mp hfound with ⟨member, hmember, hfield⟩
    rw [hfield] at htext ⊢
    cases htext
    exact ⟨hmember, rfl⟩
  · intro hmember
    rw [hmember.2]
    exact ⟨(), rfl, true, isIn_eq_true_iff.mpr ⟨text, hmember.1, rfl⟩, (), rfl, rfl⟩

theorem clauseOf_isOk_iff :
    (∃ text, clauseOf render (.dict clauses) key allowed = .ok text) ↔
      StatesMember clauses key allowed := by
  simp only [clauseOf_eq_ok_iff]
  rfl

/-- A clause is refused in one way exactly when it can be looked up. -/
theorem oneWay_clauseOf :
    OneWay (clauseOf render (.dict clauses) key allowed) ↔
      (field clauses key).hashable = true := by
  simp only [clauseOf, Value.get_dict, oneWay_bind, oneWay_read, read_eq_ok, Except.ok.injEq,
    exists_eq', true_and, forall_eq', oneWay_require, oneWay_pure, isIn_isOk_iff, implies_true,
    and_true, require_eq_ok, Bool.not_eq_true', forall_const]
  constructor
  · intro hlooked
    cases hnull : (field clauses key).isNull with
    | false => exact hlooked hnull
    | true => exact Value.hashable_of_isNull hnull
  · intro hhashable _
    exact hhashable

end Clause

/-! ## The whole document -/

/-- The document states a rule: it is a mapping whose `rule` maps the four clauses to texts. -/
def StatedRule.StatedIn (rule : StatedRule) (document : Option Value) : Prop :=
  ∃ entries clauses, document = some (.dict entries) ∧ field entries "rule" = .dict clauses ∧
    field clauses "tenant" = .str rule.tenant ∧ field clauses "role" = .str rule.role ∧
    field clauses "direct" = .str rule.direct ∧ field clauses "combine" = .str rule.combine

/-- The clauses can be looked up in their vocabularies, up to the first that is refused. -/
def ClausesHashable (clauses : List (Scalar × Value)) : Prop :=
  (field clauses "combine").hashable = true ∧
    (StatesMember clauses "combine" combinators →
      (field clauses "tenant").hashable = true ∧
        (StatesMember clauses "tenant" tenantClauses →
          (field clauses "role").hashable = true ∧
            (StatesMember clauses "role" roleClauses →
              (field clauses "direct").hashable = true)))

/-- The document counts as false or is a mapping, and its rule, if it is a mapping, has clauses
that can be looked up. -/
def LooksUpCleanly (document : Option Value) : Prop :=
  ∀ raw, document = some raw → raw.truthy = true → ∃ entries, raw = .dict entries ∧
    ∀ clauses, field entries "rule" = .dict clauses → ClausesHashable clauses

/-- A loaded rule is stated in the document, by members of the vocabularies. -/
theorem loadRule_eq_ok {render : Value → String} {document : Option Value} {rule : StatedRule}
    (h : loadRule render document = .ok rule) : rule.StatedIn document ∧ rule.Closed := by
  cases document with
  | none => cases h
  | some raw =>
      simp only [loadRule, Loop.bind_eq_ok, Loop.pure_eq_ok, read_eq_ok, require_eq_ok] at h
      rcases h with ⟨mapping, hmapping, -, hdict, combine, hcombine, found, hfound, -, rfl,
        system, -, tenant, htenant, role, hrole, direct, hdirect, rfl⟩
      rcases Value.isDict_eq_true_iff.mp hdict with ⟨clauses, rfl⟩
      rcases Value.get_orElse_eq_dict hmapping with ⟨entries, rfl, hclauses⟩
      rcases isIn_eq_true_iff.mp hfound with ⟨member, hmember, rfl⟩
      rw [clauseOf_eq_ok_iff] at htenant hrole hdirect
      exact ⟨⟨entries, clauses, rfl, hclauses, htenant.2, hrole.2, hdirect.2,
        Except.ok.inj hcombine⟩, ⟨htenant.1, hrole.1, hdirect.1, hmember⟩⟩

/-- A document that states a rule by members of the vocabularies is loaded. -/
theorem exists_loadRule (render : Value → String) {document : Option Value} {rule : StatedRule}
    (hstated : rule.StatedIn document) (hclosed : rule.Closed) :
    ∃ loaded, loadRule render document = .ok loaded := by
  rcases hstated with ⟨entries, clauses, rfl, hclauses, htenant, hrole, hdirect, hcombine⟩
  have hfound : isIn (field clauses "combine") combinators = .ok true :=
    isIn_eq_true_iff.mpr ⟨_, hclosed.combine, hcombine⟩
  have hrule : ((Value.dict entries).orElse (.dict [])).get "rule" = .ok (.dict clauses) := by
    rw [Value.get, Value.getD_orElse_dict, ← Value.get, Value.get_dict, hclauses]
  refine ⟨⟨textOf render ((Value.lookup? entries "system").getD (.str "unknown")), rule.tenant,
    rule.role, rule.direct, textOf render (field clauses "combine")⟩, ?_⟩
  simp only [loadRule, Loop.bind_eq_ok, Loop.pure_eq_ok, read_eq_ok, require_eq_ok]
  exact ⟨_, hrule, (), rfl, _, Value.get_dict clauses "combine", true, hfound, (), rfl, _,
    Value.getD_orElse_dict _ _ _, _, clauseOf_eq_ok_iff.mpr ⟨hclosed.tenant, htenant⟩, _,
    clauseOf_eq_ok_iff.mpr ⟨hclosed.role, hrole⟩, _,
    clauseOf_eq_ok_iff.mpr ⟨hclosed.direct, hdirect⟩, rfl⟩

/-- Of the document only a mapping, or what counts as false, can be asked for its rule. -/
private theorem oneWay_loadRule_of_get_error {render : Value → String} {raw : Value}
    (htrue : raw.truthy = true) (hget : ∀ entries, raw ≠ .dict entries) :
    ¬ OneWay (loadRule render (some raw)) := by
  intro hone
  simp only [loadRule, oneWay_bind, oneWay_read, Value.orElse, if_pos htrue] at hone
  rcases hone.1 with ⟨mapping, hmapping⟩
  cases raw with
  | scalar s => cases hmapping
  | list items => cases hmapping
  | dict entries => exact hget entries rfl

private theorem oneWay_loadRule_dict (render : Value → String)
    (entries : List (Scalar × Value)) :
    OneWay (loadRule render (some (.dict entries))) ↔
      ∀ clauses, field entries "rule" = .dict clauses → ClausesHashable clauses := by
  have hrule : ((Value.dict entries).orElse (.dict [])).get "rule" = .ok (field entries "rule") := by
    rw [Value.get, Value.getD_orElse_dict, ← Value.get, Value.get_dict]
  simp only [loadRule]
  rw [oneWay_read_bind hrule]
  simp only [oneWay_bind, oneWay_require, true_and, require_eq_ok, forall_const]
  cases field entries "rule" with
  | scalar s => simp [Value.isDict]
  | list items => simp [Value.isDict]
  | dict clauses =>
      have hsystem : ((Value.dict entries).orElse (.dict [])).getD "system" (.str "unknown") =
          .ok ((Value.lookup? entries "system").getD (.str "unknown")) :=
        Value.getD_orElse_dict _ _ _
      simp only [Value.isDict, forall_const, Value.dict.injEq, forall_eq', oneWay_read, read_eq_ok,
        Value.get_dict, Except.ok.injEq, exists_eq', true_and, isIn_isOk_iff, hsystem,
        oneWay_clauseOf, oneWay_pure, implies_true, and_true, ← exists_imp, clauseOf_isOk_iff,
        exists_prop, exists_eq_right, isIn_eq_true_iff]
      exact Iff.rfl

/-- A mapping is looked up cleanly exactly when the clauses of its rule can be. -/
private theorem looksUpCleanly_dict_iff (entries : List (Scalar × Value)) :
    LooksUpCleanly (some (.dict entries)) ↔
      ∀ clauses, field entries "rule" = .dict clauses → ClausesHashable clauses := by
  constructor
  · intro hclean clauses hrule
    have htrue : (Value.dict entries).truthy = true := by
      cases entries with
      | nil => cases hrule
      | cons entry entries => rfl
    rcases hclean _ rfl htrue with ⟨_, hentries, hclauses⟩
    cases hentries
    exact hclauses clauses hrule
  · intro hclauses raw hraw _
    cases hraw
    exact ⟨entries, rfl, hclauses⟩

/-- The loader fails in one way exactly when the document is looked up cleanly. -/
theorem oneWay_loadRule (render : Value → String) (document : Option Value) :
    OneWay (loadRule render document) ↔ LooksUpCleanly document := by
  cases document with
  | none =>
      refine iff_of_true ?_ ?_
      · intro e he
        cases he
        exact ⟨.missing, rfl⟩
      · intro raw hraw
        cases hraw
  | some raw =>
      by_cases hdict : ∃ entries, raw = .dict entries
      · rcases hdict with ⟨entries, rfl⟩
        rw [oneWay_loadRule_dict, looksUpCleanly_dict_iff]
      · by_cases htrue : raw.truthy = true
        · refine iff_of_false (oneWay_loadRule_of_get_error htrue fun entries h =>
            hdict ⟨entries, h⟩) ?_
          intro hclean
          rcases hclean raw rfl htrue with ⟨entries, hentries, -⟩
          exact hdict ⟨entries, hentries⟩
        · refine iff_of_true ?_ ?_
          · simp only [loadRule, Value.orElse, if_neg htrue]
            apply (oneWay_loadRule_dict render []).mpr
            intro clauses hclauses
            cases hclauses
          · intro other hother hother'
            cases hother
            exact absurd hother' htrue

/-! ## The closed vocabulary -/

/-- The loader accepts exactly the rules stated by members of the vocabularies, refuses
everything else in one way, and what it accepts can be read of everybody. -/
structure ParsesClosed (render : Value → String) (document : Option Value) : Prop where
  refused : OneWay (loadRule render document)
  accepted : ∀ rule, loadRule render document = .ok rule → rule.StatedIn document ∧ rule.Closed
  complete : ∀ rule : StatedRule, rule.StatedIn document → rule.Closed →
    ∃ loaded, loadRule render document = .ok loaded
  total : ∀ rule, loadRule render document = .ok rule → ∀ (ent : Entitlement) (p : Principal),
    (∃ grant, rule.entitled ent p = .ok grant) ∧
      ∃ decision, rule.admittedByNaiveFilter ent p = .ok decision

/-- The loader parses the closed vocabulary of the documents that are looked up cleanly, and of
no others. -/
theorem parsesClosed_iff (render : Value → String) (document : Option Value) :
    ParsesClosed render document ↔ LooksUpCleanly document := by
  constructor
  · intro hparses
    exact (oneWay_loadRule render document).mp hparses.refused
  · intro hclean
    refine ⟨(oneWay_loadRule render document).mpr hclean, fun rule => loadRule_eq_ok,
      fun rule => exists_loadRule render, ?_⟩
    intro rule hloaded ent p
    rcases (closed_iff rule).mp (loadRule_eq_ok hloaded).2 with ⟨spelt, rfl⟩
    exact ⟨⟨_, spelt.entitled_spelled ent p⟩, ⟨_, spelt.admittedByNaiveFilter_spelled ent p⟩⟩

/-- A rule document whose top level is a list. -/
def listedRule : Value :=
  .list [.dict [(.str "rule", .dict [])]]

/-- A rule document whose tenant clause is a list. -/
def listedClause : Value :=
  .dict [(.str "rule", .dict
    [(.str "tenant", .list [.str "member"]), (.str "role", .str "ignored"),
      (.str "direct", .str "ignored"), (.str "combine", .str "tenant AND role")])]

/-- The one is not a mapping and the other cannot be looked up; neither is refused as a rule. -/
theorem lists_not_refused :
    (∀ render, ¬ ParsesClosed render (some listedRule)) ∧
      ∀ render, ¬ ParsesClosed render (some listedClause) := by
  constructor
  · intro render hparses
    rcases hparses.refused (.raised (.attributeError "get")) rfl with ⟨fault, hfault⟩
    cases hfault
  · intro render hparses
    rcases hparses.refused (.raised .typeError) rfl with ⟨fault, hfault⟩
    cases hfault

end Tearline
