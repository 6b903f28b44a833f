import Mathlib.Data.List.Sort
import Tearline.Library.Paging
import Tearline.Loading

/-!
# The Qdrant adapter

The inventory is read by scrolling through the collection, page by page, and decoding the
payload of every point.  The store is outside the program.

Main results:

- Theorem {lit}`scroll_complete`: the scroll ends and returns every payload once, in order.
- Theorem {lit}`inventory_complete`: the inventory is one chunk for each point, sorted by id.
- Theorem {lit}`tenantsAlike_iff`: when the inventory and the query read tenants alike.
-/

namespace Tearline

namespace Qdrant

/-! ## Scrolling -/

/-- Points for each scroll call. -/
def scrollPage : Nat :=
  1000

/-- The payload keys asked for. -/
def payloadFields : List String :=
  ["chunk_id", "source_document_ids", "entitlement_state", "tenants", "roles", "principals",
    "ingested_at"]

/-- The body of a scroll request. -/
structure ScrollRequest (κ : Type) where
  limit : Nat
  withPayload : List String
  offset : Option κ

/-- What the store answers to a scroll request: the payloads of a page of points, and the
offset of the first point it leaves out.  The answer may depend on how often it was asked. -/
abbrev Scroll (κ : Type) := Nat → ScrollRequest κ → Paging.Page κ Value

variable {κ : Type}

/-- The body of the loop of `_scroll`, with the calls made and the payloads gathered so far; it
is given up after a number of turns. -/
def scrollFrom (store : Scroll κ) : Nat → Nat → Option κ → List Value → Option (List Value)
  | 0, _, _, _ => none
  | fuel + 1, calls, offset, payloads =>
      let body : ScrollRequest κ :=
        { limit := scrollPage, withPayload := payloadFields, offset := offset }
      let result := store calls body
      let payloads := payloads ++ result.items
      match result.next with
      | none => some payloads
      | some next => scrollFrom store fuel (calls + 1) (some next) payloads

/-- The source's `_scroll`. -/
def scroll (store : Scroll κ) (fuel : Nat) : Option (List Value) :=
  scrollFrom store fuel 0 none []

/-- The store obeys the scroll contract for a sequence of points. -/
def ObeysContract (store : Scroll κ) (points : List (κ × Value)) : Prop :=
  Paging.Serves points fun calls limit offset =>
    store calls { limit := limit, withPayload := payloadFields, offset := offset }

/-- From any offset on, the loop appends what is left, in as many turns as there are points left
and one more. -/
theorem scrollFrom_eq {store : Scroll κ} {points : List (κ × Value)}
    (hstore : ObeysContract store points) (fuel calls : Nat) {offset : Option κ}
    {rest : List (κ × Value)} (hrest : Paging.From points offset rest)
    (hfuel : rest.length < fuel) (payloads : List Value) :
    scrollFrom store fuel calls offset payloads = some (payloads ++ rest.map Prod.snd) := by
  induction fuel generalizing calls offset rest payloads with
  | zero => exact absurd hfuel (Nat.not_lt_zero _)
  | succ fuel ih =>
      rcases Paging.Serves.page_cases hstore (by decide : 0 < scrollPage) hrest calls with
        ⟨front, back, rfl, hitems, hlast | hmore⟩
      · rcases hlast with ⟨rfl, hnext⟩
        simp only [scrollFrom, hitems, hnext, List.append_nil]
      · rcases hmore with ⟨hfront, next, hnext, hback⟩
        have hshorter : back.length < fuel := by
          have hpos := List.length_pos_iff.mpr hfront
          rw [List.length_append] at hfuel
          omega
        simp only [scrollFrom, hitems, hnext]
        rw [ih (calls + 1) hback hshorter, List.map_append, List.append_assoc]

/-- The scroll ends and returns the payload of every point once, in the order of the store. -/
theorem scroll_complete {store : Scroll κ} {points : List (κ × Value)}
    (hstore : ObeysContract store points) {fuel : Nat} (hfuel : points.length < fuel) :
    scroll store fuel = some (points.map Prod.snd) := by
  have hstart : Paging.From points none points := rfl
  exact scrollFrom_eq hstore fuel 0 hstart hfuel []

/-- A store that answers an empty page with an offset is asked for ever. -/
theorem scroll_stalled {store : Scroll κ} {stuck : κ}
    (hstore : ∀ calls body, store calls body = { items := [], next := some stuck })
    (fuel : Nat) : scroll store fuel = none := by
  have hloop : ∀ fuel calls offset payloads, scrollFrom store fuel calls offset payloads = none := by
    intro fuel
    induction fuel with
    | zero =>
        intro calls offset payloads
        rfl
    | succ fuel ih =>
        intro calls offset payloads
        simp only [scrollFrom, hstore, ih]
  exact hloop fuel 0 none []

/-! ## Decoding -/

variable (fromisoformat : String → Option DateTime)

/-- `datetime.fromisoformat(payload["ingested_at"]) if payload.get("ingested_at") else None`; how
a text is read as a time is left open. -/
def ingestedAtOf (payload : Value) : Except LoadError (Option DateTime) := do
  let value ← read (payload.get "ingested_at")
  if value.truthy then
    match value with
    | .scalar (.str text) =>
        match fromisoformat text with
        | none => .error .valueError
        | some time => .ok (some time)
    | _ => .error (.raised .typeError)
  else .ok none

/-- The chunk of a payload. -/
def decodePayload (payload : Value) : Except LoadError Chunk := do
  let id ← read (payload.subscript "chunk_id")
  let sourceDocumentIds ← tupleAt payload "source_document_ids"
  let state ← read (payload.subscript "entitlement_state")
  let state ← stateOf state
  let tenants ← frozensetAt payload "tenants"
  let roles ← frozensetAt payload "roles"
  let principals ← frozensetAt payload "principals"
  let entitlement ← entitlementOf state tenants roles principals .null
  let ingestedAt ← ingestedAtOf fromisoformat payload
  validated "Chunk" do
    let id ← asStr id
    let sourceDocumentIds ← asStrs sourceDocumentIds
    return {
      id := id
      sourceDocumentIds := sourceDocumentIds
      entitlement := entitlement
      ingestedAt := ingestedAt }

/-- `sorted(out, key=lambda c: c.id)` -/
def sortedById (out : List Chunk) : List Chunk :=
  out.mergeSort fun a b => decide (a.id ≤ b.id)

/-- The source's `chunks`. -/
def chunks (store : Scroll κ) (fuel : Nat) : Option (Except LoadError (List Chunk)) :=
  (scroll store fuel).map fun payloads =>
    (payloads.mapM (decodePayload fromisoformat)).map sortedById

theorem pairwise_sortedById (out : List Chunk) :
    (sortedById out).Pairwise fun a b => a.id ≤ b.id := by
  have hsorted : (sortedById out).Pairwise fun a b => decide (a.id ≤ b.id) = true := by
    apply List.pairwise_mergeSort
    · intro a b c hab hbc
      exact decide_eq_true (String.le_trans (of_decide_eq_true hab) (of_decide_eq_true hbc))
    · intro a b
      rw [Bool.or_eq_true, decide_eq_true_eq, decide_eq_true_eq]
      exact String.le_total a.id b.id
  exact hsorted.imp of_decide_eq_true

/-- The inventory is complete: the scroll ends, every payload is returned once and in order, and
if the payloads decode, the chunks are those of the points, one for each, sorted by id. -/
theorem inventory_complete {store : Scroll κ} {points : List (κ × Value)}
    (hstore : ObeysContract store points) {fuel : Nat} (hfuel : points.length < fuel) :
    scroll store fuel = some (points.map Prod.snd) ∧
      ∀ out, List.Forall₂ (fun point chunk => decodePayload fromisoformat point.2 = .ok chunk)
        points out →
          ∃ inventory, chunks fromisoformat store fuel = some (.ok inventory) ∧
            inventory.Perm out ∧ inventory.Pairwise fun a b => a.id ≤ b.id := by
  have hscroll := scroll_complete hstore hfuel
  refine ⟨hscroll, ?_⟩
  intro out hout
  have hdecoded : (points.map Prod.snd).mapM (decodePayload fromisoformat) = .ok out := by
    rw [Loop.mapM_eq_ok_iff, List.forall₂_map_left_iff]
    exact hout
  refine ⟨sortedById out, ?_, List.mergeSort_perm _ _, pairwise_sortedById out⟩
  rw [chunks, hscroll, Option.map_some, hdecoded]
  rfl

/-- A payload without an entitlement. -/
def barePayload (id : String) : Value :=
  .dict [(.str "chunk_id", .str id), (.str "entitlement_state", .str "unknown")]

/-- Its chunk. -/
def bareChunk (id : String) : Chunk where
  id := id
  entitlement := { state := .unknown }

/-- Two points, the second of which has zero for an offset. -/
def twoPoints : List (Nat × Value) :=
  [(7, barePayload "c-b"), (0, barePayload "c-a")]

/-- A store that hands them out one by one. -/
def oneByOne : Scroll Nat := fun _ body =>
  match body.offset with
  | none => { items := [barePayload "c-b"], next := some 0 }
  | some 7 => { items := [barePayload "c-b"], next := some 0 }
  | some _ => { items := [barePayload "c-a"], next := none }

theorem from_twoPoints {offset : Option Nat} {rest : List (Nat × Value)}
    (h : Paging.From twoPoints offset rest) :
    (offset = none ∧ rest = twoPoints) ∨ (offset = some 7 ∧ rest = twoPoints) ∨
      offset = some 0 ∧ rest = [(0, barePayload "c-a")] := by
  cases offset with
  | none => exact Or.inl ⟨rfl, h⟩
  | some first =>
      rcases h with ⟨before, item, after, hpoints, rfl⟩
      match before with
      | [] =>
          cases hpoints
          exact Or.inr (Or.inl ⟨rfl, rfl⟩)
      | [_] =>
          cases hpoints
          exact Or.inr (Or.inr ⟨rfl, rfl⟩)
      | _ :: _ :: _ => simp [twoPoints] at hpoints

theorem oneByOne_obeys : ObeysContract oneByOne twoPoints where
  page n limit offset rest hlimit hrest := by
    refine ⟨1, hlimit, ?_⟩
    rcases from_twoPoints hrest with ⟨rfl, rfl⟩ | ⟨rfl, rfl⟩ | ⟨rfl, rfl⟩ <;> exact ⟨rfl, rfl⟩
  progress n limit offset rest _ hrest _ := by
    rcases from_twoPoints hrest with ⟨rfl, rfl⟩ | ⟨rfl, rfl⟩ | ⟨rfl, rfl⟩ <;>
      exact List.cons_ne_nil _ _

theorem inventory_complete_twoPoints :
    ∃ inventory, chunks (fun _ => none) oneByOne 3 = some (.ok inventory) ∧
      inventory.Perm [bareChunk "c-b", bareChunk "c-a"] ∧
      inventory.Pairwise fun a b => a.id ≤ b.id :=
  (inventory_complete (fun _ => none) oneByOne_obeys (by decide : twoPoints.length < 3)).2 _
    (List.Forall₂.cons rfl (List.Forall₂.cons rfl List.Forall₂.nil))

/-! ## Tenants -/

/-- A condition of a filter. -/
structure Condition where
  key : String
  value : Option String
deriving DecidableEq, Repr

/-- The conditions that `retrieve` sends, all of which a point must meet. -/
def tenantFilter (principal : Principal) : List Condition :=
  [{ key := "tenants", value := principal.tenant }]

/-- Whether a point satisfies a filter, given when a payload value meets a condition. -/
def Satisfies (meets : Value → Option String → Prop) (payload : Value)
    (filter : List Condition) : Prop :=
  ∀ condition ∈ filter, meets (payload.entry condition.key) condition.value

/-- What the store documents of a condition: it is met by a text equal to its value and by an
array that contains it. -/
structure KeywordMatch (meets : Value → Option String → Prop) : Prop where
  keyword : ∀ text value, meets (.str text) (some value) ↔ text = value
  array : ∀ items value, meets (.list items) (some value) ↔ .str value ∈ items

/-- A tenant is decoded exactly when the point satisfies the filter sent for its principals. -/
def TenantsAlike (meets : Value → Option String → Prop) (payload : Value) (chunk : Chunk) :
    Prop :=
  ∀ (tenant : String) (principal : Principal), principal.tenant = some tenant →
    (tenant ∈ chunk.entitlement.tenants ↔ Satisfies meets payload (tenantFilter principal))

theorem decodePayload_tenants {payload : Value} {chunk : Chunk}
    (h : decodePayload fromisoformat payload = .ok chunk) :
    ∃ texts, frozensetAt payload "tenants" = .ok (Value.strs texts) ∧
      chunk.entitlement.tenants = texts.toFinset := by
  simp only [decodePayload, Loop.bind_eq_ok, read_eq_ok, entitlementOf, validated_eq_ok,
    Option.bind_eq_bind, Option.bind_eq_some_iff, asStrs_eq_some_iff] at h
  rcases h with ⟨_, -, _, -, _, -, _, -, _, htenants, _, -, _, -, entitlement,
    ⟨texts, rfl, _, -, _, -, _, -, hentitlement⟩, _, -, _, -, _, -, hchunk⟩
  cases hentitlement
  cases hchunk
  exact ⟨texts, htenants, rfl⟩

/-- Of a text or an array the filter asks whether it holds the tenant. -/
theorem satisfies_tenantFilter_iff {meets : Value → Option String → Prop}
    (hmeets : KeywordMatch meets) {payload : Value}
    (htenants : (∃ text, payload.entry "tenants" = .str text) ∨
      ∃ items, payload.entry "tenants" = .list items)
    {tenant : String} {principal : Principal} (hprincipal : principal.tenant = some tenant) :
    Satisfies meets payload (tenantFilter principal) ↔
      (payload.entry "tenants").Holds tenant := by
  simp only [Satisfies, tenantFilter, List.mem_singleton, forall_eq, hprincipal]
  rcases htenants with ⟨text, htext⟩ | ⟨items, hitems⟩
  · rw [htext, hmeets.keyword, Value.Holds, Scalar.str.injEq]
  · rw [hitems, hmeets.array, Value.Holds]

/-- The inventory and the query read the tenants of a point alike exactly when they are a list,
or a single text of one character. -/
theorem tenantsAlike_iff {meets : Value → Option String → Prop} (hmeets : KeywordMatch meets)
    {payload : Value} {chunk : Chunk} (hdecode : decodePayload fromisoformat payload = .ok chunk)
    (htenants : (∃ text, payload.entry "tenants" = .str text) ∨
      ∃ texts, payload.entry "tenants" = .list (Value.strs texts)) :
    TenantsAlike meets payload chunk ↔
      ∀ text, payload.entry "tenants" = .str text → text.length = 1 := by
  rcases decodePayload_tenants fromisoformat hdecode with ⟨texts, hread, hchunk⟩
  have hshape : (∃ text, payload.entry "tenants" = .str text) ∨
      ∃ items, payload.entry "tenants" = .list items := by
    rcases htenants with htext | ⟨texts, hlist⟩
    · exact Or.inl htext
    · exact Or.inr ⟨_, hlist⟩
  have halike : TenantsAlike meets payload chunk ↔
      (payload.entry "tenants").ReadsWhole texts.toFinset := by
    rw [TenantsAlike, hchunk]
    constructor
    · intro hall tenant
      rw [hall tenant { id := tenant, label := tenant, tenant := some tenant } rfl]
      exact satisfies_tenantFilter_iff hmeets hshape rfl
    · intro hwhole tenant principal hprincipal
      rw [hwhole tenant, satisfies_tenantFilter_iff hmeets hshape hprincipal]
  rw [halike, readsWhole_frozensetAt hread]
  rcases htenants with ⟨text, htext⟩ | ⟨listed, hlisted⟩
  · simp [htext, Value.Itemised]
  · simp [hlisted, Value.Itemised]

/-- A payload whose tenants are a single text. -/
def acmePayload : Value :=
  .dict [(.str "chunk_id", .str "c-page"), (.str "entitlement_state", .str "stated"),
    (.str "tenants", .str "acme")]

/-- Its chunk, with the characters of the text for tenants. -/
def acmePoint : Chunk where
  id := "c-page"
  entitlement :=
    { state := .stated, tenants := ("acme".toList.map String.singleton).toFinset }

theorem decodePayload_acme : decodePayload (fun _ => none) acmePayload = .ok acmePoint :=
  rfl

/-- The conditions of the store, as it documents them. -/
def holdsOrContains (value : Value) : Option String → Prop
  | none => False
  | some text => value.Holds text

theorem keywordMatch_holdsOrContains : KeywordMatch holdsOrContains where
  keyword text value := by simp [holdsOrContains, Value.Holds]
  array items value := Iff.rfl

/-- The point is retrieved for the tenant it names, which the inventory does not decode. -/
theorem acme_read_apart :
    decodePayload (fun _ => none) acmePayload = .ok acmePoint ∧
      ¬ TenantsAlike holdsOrContains acmePayload acmePoint := by
  refine ⟨decodePayload_acme, ?_⟩
  intro halike
  have hdecoded := (halike "acme" { id := "p-ada", label := "Ada", tenant := some "acme" } rfl).mpr
    ((satisfies_tenantFilter_iff keywordMatch_holdsOrContains (.inl ⟨"acme", rfl⟩) rfl).mpr rfl)
  rw [acmePoint, List.mem_toFinset, Value.mem_singletons_iff] at hdecoded
  exact absurd hdecoded (by decide)

theorem tenantsAlike_iff_acme :
    TenantsAlike holdsOrContains acmePayload acmePoint ↔
      ∀ text, acmePayload.entry "tenants" = .str text → text.length = 1 :=
  tenantsAlike_iff (fun _ => none) keywordMatch_holdsOrContains decodePayload_acme
    (.inl ⟨"acme", rfl⟩)

end Qdrant

end Tearline
