import Tearline.Backends.Qdrant
import Tearline.LiveScan
import Tearline.TagStores

/-!
# Scanning through the Qdrant adapter

The inventory is scrolled and each retrieval searches the collection with a filter that the
adapter writes.  The store may rank its answers as it likes, and any request may fail.

Main results:

- Theorem {lit}`scroll_of_returned`: a scroll that ends returned every payload.
- Theorem {lit}`scanLive_adapter`: a scan that reports is the scan of a store without a state.
- Theorem {lit}`qdrant_leaks_reported`: as long as the adapter writes the filter, whatever a scan
  finds disclosed is contradicted on the propagation axis.
- Theorem {lit}`unfiltered_discloses`: without the filter everything that is denied is disclosed.
-/

namespace Tearline

namespace Qdrant

variable {κ Vector : Type}

/-! ## Scrolls that end -/

/-- More turns do not change what the loop returns. -/
theorem scrollFrom_add {store : Scroll κ} {fuel calls : Nat} {offset : Option κ}
    {payloads out : List Value} (h : scrollFrom store fuel calls offset payloads = some out)
    (more : Nat) : scrollFrom store (fuel + more) calls offset payloads = some out := by
  induction fuel generalizing calls offset payloads with
  | zero => cases h
  | succ fuel ih =>
      rw [Nat.succ_add]
      simp only [scrollFrom] at h ⊢
      cases hnext : (store calls
          { limit := scrollPage, withPayload := payloadFields, offset := offset }).next with
      | none =>
          rw [hnext] at h
          exact h
      | some next =>
          rw [hnext] at h
          exact ih h

/-- A scroll that ends returned the payload of every point once and in order. -/
theorem scroll_of_returned {store : Scroll κ} {points : List (κ × Value)}
    (hstore : ObeysContract store points) {fuel : Nat} {payloads : List Value}
    (h : scroll store fuel = some payloads) : payloads = points.map Prod.snd := by
  have hmore : scroll store (fuel + (points.length + 1)) = some payloads := scrollFrom_add h _
  rw [scroll_complete hstore (by omega)] at hmore
  exact (Option.some.inj hmore).symm

/-! ## Retrieving -/

/-- The body of a search request. -/
structure SearchRequest (Vector : Type) where
  vector : Vector
  limit : Int
  withPayload : List String
  filter : Option (List Condition)

/-- The body that `retrieve_unfiltered` sends. -/
def unfilteredBody (request : RetrievalRequest Vector) : SearchRequest Vector where
  vector := request.vector
  limit := request.limit
  withPayload := ["chunk_id"]
  filter := none

/-- The body that `retrieve` sends. -/
def filteredBody (request : RetrievalRequest Vector) : SearchRequest Vector :=
  { unfilteredBody request with filter := some (tenantFilter request.principal) }

/-- A collection behind its interface: how it answers the scroll requests, and the payloads that
it answers to the search request of a number, if it does not fail. -/
structure Server (κ Vector : Type) where
  scroll : Scroll κ
  search : Nat → SearchRequest Vector → Option (List Value)

/-- `[point["payload"]["chunk_id"] for point in result["result"]]` -/
def idsOf (payloads : List Value) : Except LoadError (List String) :=
  payloads.mapM fun payload => do
    let id ← read (payload.subscript "chunk_id")
    validated "ProbeResult" (asStr id)

/-- What a retrieval with a body returns, if nothing is raised. -/
def Server.retrieve (server : Server κ Vector) (asked : Nat) (body : SearchRequest Vector) :
    Option (List String) :=
  (server.search asked body).bind fun payloads => (idsOf payloads).toOption

/-- The source's `QdrantBackend`, with the body that its retrievals send and how many of them were
answered. -/
def adapter (fromisoformat : String → Option DateTime)
    (bodyOf : RetrievalRequest Vector → SearchRequest Vector) (server : Server κ Vector)
    (fuel : Nat) : LiveBackend Nat Vector where
  enforcementSite := "application"
  chunks := fun asked =>
    match chunks fromisoformat server.scroll fuel with
    | some (.ok out) => .ok (out, asked)
    | _ => .error .store
  retrieve := fun request asked =>
    match server.retrieve asked (bodyOf request) with
    | none => .error .store
    | some ids => .ok (ids, asked + 1)

/-- The store as a function of the requests. -/
def engine (bodyOf : RetrievalRequest Vector → SearchRequest Vector) (server : Server κ Vector)
    (inventory : List Chunk) : Backend Vector where
  enforcementSite := "application"
  chunks := inventory
  retrieve := fun asked request => (server.retrieve asked (bodyOf request)).getD []

/-- What a scan through the adapter points at. -/
def targetOf (fromisoformat : String → Option DateTime)
    (bodyOf : RetrievalRequest Vector → SearchRequest Vector) (server : Server κ Vector)
    (fuel : Nat) (source : Dict String SourceDocument) (enforcement : String)
    (annLimit : Option Int) : LiveTarget Nat Vector where
  source := source
  backend := adapter fromisoformat bodyOf server fuel
  enforcement := enforcement
  annLimit := annLimit

section Scans

variable {fromisoformat : String → Option DateTime}
  {bodyOf : RetrievalRequest Vector → SearchRequest Vector} {server : Server κ Vector} {fuel : Nat}
  {source : Dict String SourceDocument} {enforcement : String} {annLimit : Option Int}
  {deterministicVector : String → Nat → Vector} {shared : Shared} {report : VerificationReport}
  {last : Nat}

/-- A scan that gets to a report scrolled the whole collection, and its report is that of a scan
of the store as a function of the requests. -/
theorem scanLive_adapter {points : List (κ × Value)}
    (hscroll : ObeysContract server.scroll points)
    (hscan : scanLive deterministicVector shared
      (targetOf fromisoformat bodyOf server fuel source enforcement annLimit) 0 =
        .ok (report, last)) :
    ∃ out, List.Forall₂ (fun point chunk => decodePayload fromisoformat point.2 = .ok chunk)
        points out ∧
      scan deterministicVector shared
        ((targetOf fromisoformat bodyOf server fuel source enforcement annLimit).withStore
          (engine bodyOf server (sortedById out))) = .ok report := by
  rcases scanLive_eq_ok_iff.mp hscan with
    ⟨inventory, middle, answers, hchunks, hdialogue, hrecorded⟩
  simp only [targetOf, adapter] at hchunks
  split at hchunks
  · rename_i found hfound
    cases hchunks
    rcases Option.map_eq_some_iff.mp hfound with ⟨payloads, hpayloads, hdecoded⟩
    rcases Loop.map_eq_ok.mp hdecoded with ⟨out, hout, rfl⟩
    rw [scroll_of_returned hscroll hpayloads, Loop.mapM_eq_ok_iff, List.forall₂_map_left_iff]
      at hout
    refine ⟨out, hout, ?_⟩
    have hanswers := hdialogue.eq_mapIdx_of_step id
      (engine bodyOf server (sortedById out)).retrieve fun request asked ids next hanswer => by
        simp only [targetOf, adapter] at hanswer
        split at hanswer
        · cases hanswer
        · rename_i returned hreturned
          cases hanswer
          simp [engine, hreturned]
    simp only [id, Nat.zero_add] at hanswers
    refine scan_withStore_of_recorded rfl ?_
    rw [hanswers] at hrecorded
    exact hrecorded
  · cases hchunks

end Scans

/-! ## The filter -/

/-- What the store documents of a condition; a point without a value does not meet one. -/
structure Matching (meets : Value → Option String → Prop) : Prop extends KeywordMatch meets where
  absent : ∀ value, ¬ meets .null (some value)

/-- A collection whose points name different chunks: its scroll serves them all, a search is
answered with points that satisfy its filter, and one with a condition without a value is
refused.  Which points, and in which order, is up to the index. -/
structure Server.Filters (server : Server κ Vector) (meets : Value → Option String → Prop)
    (points : List (κ × Value)) : Prop where
  scroll : ObeysContract server.scroll points
  key : (points.map fun point => point.2.entry "chunk_id").Nodup
  answers : ∀ asked body payloads, server.search asked body = some payloads →
    ∀ payload ∈ payloads, ∃ point ∈ points,
      point.2.entry "chunk_id" = payload.entry "chunk_id" ∧
        ∀ filter, body.filter = some filter → Satisfies meets point.2 filter
  valued : ∀ asked body payloads filter, server.search asked body = some payloads →
    body.filter = some filter → ∀ condition ∈ filter, condition.value ≠ none

/-- Every point lists its tenants or has none, and states an entitlement if it has any. -/
def TenantsListed (fromisoformat : String → Option DateTime) (points : List (κ × Value)) :
    Prop :=
  ∀ point ∈ points, ∀ chunk, decodePayload fromisoformat point.2 = .ok chunk →
    (point.2.entry "tenants" = .null ∨ ∃ items, point.2.entry "tenants" = .list items) ∧
      (chunk.entitlement.tenants ≠ ∅ → chunk.entitlement.state = .stated)

section Filter

variable {fromisoformat : String → Option DateTime} {server : Server κ Vector}
  {meets : Value → Option String → Prop} {points : List (κ × Value)} {out : List Chunk}

theorem decodePayload_id {payload : Value} {chunk : Chunk}
    (h : decodePayload fromisoformat payload = .ok chunk) :
    payload.entry "chunk_id" = .str chunk.id := by
  simp only [decodePayload, Loop.bind_eq_ok, read_eq_ok, validated_eq_ok, Option.bind_eq_bind,
    Option.bind_eq_some_iff, asStr_eq_some_iff] at h
  rcases h with ⟨_, hread, _, -, _, -, _, -, _, -, _, -, _, -, _, -, _, -, _, hid, _, -, hchunk⟩
  cases hchunk
  rw [Value.subscript_eq_ok hread]
  exact hid

/-- A returned id is that of a payload that was answered. -/
theorem exists_payload_of_returned {asked : Nat} {body : SearchRequest Vector} {cid : String}
    (h : cid ∈ (server.retrieve asked body).getD []) :
    ∃ payloads, server.search asked body = some payloads ∧
      ∃ payload ∈ payloads, payload.entry "chunk_id" = .str cid := by
  rw [Server.retrieve] at h
  cases hsearch : server.search asked body with
  | none => simp [hsearch] at h
  | some payloads =>
      refine ⟨payloads, rfl, ?_⟩
      simp only [hsearch, Option.bind_some] at h
      cases hids : idsOf payloads with
      | error e => simp [hids, Except.toOption] at h
      | ok ids =>
          simp only [hids, Except.toOption, Option.getD_some] at h
          rcases Loop.exists_left_of_mem (Loop.mapM_eq_ok_iff.mp hids) h with
            ⟨payload, hpayload, hid⟩
          simp only [Loop.bind_eq_ok, read_eq_ok, validated_eq_ok, asStr_eq_some_iff] at hid
          rcases hid with ⟨_, hread, rfl⟩
          exact ⟨payload, hpayload, Value.subscript_eq_ok hread⟩

/-- A point that satisfies the filter of a principal is decoded with the principal's tenant. -/
theorem mem_tenants_of_satisfies (hmeets : Matching meets) {payload : Value} {chunk : Chunk}
    (hdecode : decodePayload fromisoformat payload = .ok chunk)
    (hshape : payload.entry "tenants" = .null ∨ ∃ items, payload.entry "tenants" = .list items)
    {principal : Principal} {tenant : String} (htenant : principal.tenant = some tenant)
    (hsatisfies : Satisfies meets payload (tenantFilter principal)) :
    tenant ∈ chunk.entitlement.tenants := by
  rcases decodePayload_tenants fromisoformat hdecode with ⟨texts, hread, hchunk⟩
  rcases hshape with hnull | hlist
  · have hmet := hsatisfies _ (List.mem_singleton_self _)
    rw [hnull, htenant] at hmet
    exact absurd hmet (hmeets.absent tenant)
  · have hitemised : (payload.entry "tenants").Itemised := by
      rcases hlist with ⟨items, hitems⟩
      rw [hitems]
      trivial
    have hholds := (satisfies_tenantFilter_iff hmeets.toKeywordMatch (Or.inr hlist) htenant).mp
      hsatisfies
    rw [hchunk]
    exact ((readsWhole_frozensetAt hread).mpr hitemised tenant).mpr hholds

/-- As long as the filter is written the store answers by tag. -/
theorem engine_answersByTag (hmeets : Matching meets) (hserver : server.Filters meets points)
    (hlisted : TenantsListed fromisoformat points) {rule : EntitlementRule}
    (hrule : TenantOnly rule)
    (hdecoded : List.Forall₂ (fun point chunk => decodePayload fromisoformat point.2 = .ok chunk)
      points out) (principals : List Principal) :
    (engine filteredBody server (sortedById out)).AnswersByTag rule principals := by
  intro asked request _ cid hcid
  rcases exists_payload_of_returned hcid with ⟨payloads, hsearch, payload, hpayload, hid⟩
  rcases hserver.answers _ _ _ hsearch payload hpayload with ⟨point, hpoint, hsame, hfilter⟩
  have hvalued := hserver.valued _ _ _ _ hsearch rfl _ (List.mem_singleton_self _)
  rcases Option.ne_none_iff_exists'.mp hvalued with ⟨tenant, htenant⟩
  rcases Loop.exists_right_of_mem hdecoded hpoint with ⟨chunk, hchunk, hdecode⟩
  rcases hlisted point hpoint chunk hdecode with ⟨hshape, hstated⟩
  have hmem := mem_tenants_of_satisfies hmeets hdecode hshape htenant (hfilter _ rfl)
  refine ⟨chunk, (List.mergeSort_perm _ _).mem_iff.mpr hchunk, ?_,
    (hrule.entitled_iff _ _).mpr ⟨hstated (Finset.ne_empty_of_mem hmem), tenant, hmem, htenant⟩⟩
  have hids := (decodePayload_id hdecode).symm.trans (hsame.trans hid)
  simpa using hids

/-- The chunks of points that name different chunks have distinct ids. -/
theorem nodup_ids_of_decoded (hserver : server.Filters meets points)
    (hdecoded : List.Forall₂ (fun point chunk => decodePayload fromisoformat point.2 = .ok chunk)
      points out) : ((sortedById out).map Chunk.id).Nodup := by
  have hids : (points.map fun point => point.2.entry "chunk_id") =
      (out.map Chunk.id).map Value.str := by
    rw [List.map_map]
    exact Loop.map_eq_map_of_forall₂ hdecoded fun point chunk h => decodePayload_id h
  have hkey := hserver.key
  rw [hids] at hkey
  exact (((List.mergeSort_perm out _).map Chunk.id).nodup_iff).mpr (hkey.of_map _)

/-- As long as the adapter writes the filter, whatever a scan finds disclosed is a chunk that is
contradicted on the propagation axis. -/
theorem qdrant_leaks_reported {source : Dict String SourceDocument} {enforcement : String}
    {annLimit : Option Int} {deterministicVector : String → Nat → Vector} {shared : Shared}
    {report : VerificationReport} {fuel last : Nat} (hmeets : Matching meets)
    (hserver : server.Filters meets points) (hlisted : TenantsListed fromisoformat points)
    (hrule : TenantOnly shared.rule)
    (hscan : scanLive deterministicVector shared
      (targetOf fromisoformat filteredBody server fuel source enforcement annLimit) 0 =
        .ok (report, last)) :
    ∀ r ∈ report.probes, ∀ cid ∈ r.overRetrieved,
      ∃ f ∈ report.propagation, f.chunkId = cid ∧ f.verdict = .contradicted := by
  rcases scanLive_adapter hserver.scroll hscan with ⟨out, hdecoded, hstateless⟩
  intro r hr cid hcid
  rcases leak_of_scan hstateless (nodup_ids_of_decoded hserver hdecoded)
    (engine_answersByTag hmeets hserver hlisted hrule hdecoded _) hr hcid with
    ⟨chunk, -, rfl, hleak⟩
  exact hleak.contradicted fun _ => hrule.boundTrusted _

end Filter

/-- The payload of the mislabelled plan. -/
def planPayload : Value :=
  .dict [(.str "chunk_id", .str "c-plan"), (.str "source_document_ids", .list [.str "d-plan"]),
    (.str "entitlement_state", .str "stated"), (.str "tenants", .list [.str "acme"])]

/-- A collection of the plan alone. -/
def planServer : Server Nat Unit where
  scroll := fun _ _ => { items := [planPayload], next := none }
  search := fun _ body =>
    match body.filter with
    | none => some [planPayload]
    | some conditions =>
        if conditions.any fun c => decide (c.value = none) then none
        else if conditions.all fun c => decide (c = { key := "tenants", value := some "acme" }) then
          some [planPayload]
        else some []

theorem matching_holdsOrContains : Matching holdsOrContains where
  toKeywordMatch := keywordMatch_holdsOrContains
  absent value := by simp [holdsOrContains, Value.Holds]

theorem planServer_filters : planServer.Filters holdsOrContains [(1, planPayload)] where
  scroll :=
    { page := fun n limit offset rest hlimit hrest => by
        rw [hrest.of_singleton]
        exact ⟨1, hlimit, rfl, rfl⟩
      progress := fun n limit offset rest _ _ _ => List.cons_ne_nil _ _ }
  key := List.nodup_singleton _
  answers asked body payloads hsearch payload hpayload := by
    simp only [planServer] at hsearch
    split at hsearch
    · rename_i hnone
      cases hsearch
      rw [List.mem_singleton.mp hpayload]
      refine ⟨_, List.mem_singleton_self _, rfl, fun filter hfilter => ?_⟩
      rw [hnone] at hfilter
      cases hfilter
    · rename_i conditions hsome
      split_ifs at hsearch with hvalue hmet
      · cases hsearch
        rw [List.mem_singleton.mp hpayload]
        refine ⟨_, List.mem_singleton_self _, rfl, fun filter hfilter condition hcondition => ?_⟩
        rw [hsome] at hfilter
        cases hfilter
        rw [of_decide_eq_true (List.all_eq_true.mp hmet condition hcondition)]
        exact List.mem_singleton_self _
      · cases hsearch
        cases hpayload
  valued asked body payloads filter hsearch hfilter condition hcondition hnone := by
    simp only [planServer, hfilter] at hsearch
    rw [if_pos (List.any_eq_true.mpr ⟨condition, hcondition, decide_eq_true hnone⟩)] at hsearch
    cases hsearch

/-- The inventory of the collection. -/
theorem chunks_planServer :
    chunks (fun _ => none) planServer.scroll 2 = some (.ok [planChunk]) := by
  have hdecoded : chunks (fun _ => none) planServer.scroll 2 =
      some (.ok (sortedById [planChunk])) := rfl
  rw [hdecoded, sortedById, List.mergeSort_singleton]

/-- The report of a scan with the filter: the plan is disclosed to the wrong tenant and kept from
the right one. -/
def filteredReport : VerificationReport where
  chunksExamined := 1
  chunksUntraceable := 0
  propagation := planFindings
  probes :=
    [planResult,
      { probeId := "q-plan", principalId := "p-globex", returned := [],
        overRetrieved := ∅, underRetrieved := {"c-plan"}, verdict := .contradicted,
        outcome := .underRetrieval }]
  probesSkipped := []
  isPartial := false
  enforcementSite := "application"

theorem qdrant_leaks_reported_plan :
    ∃ f ∈ filteredReport.propagation, f.chunkId = "c-plan" ∧ f.verdict = .contradicted := by
  have hscan : scanLive (fun _ _ => ()) tenantsShared
      (targetOf (fun _ => none) filteredBody planServer 2 planSource "rule" none) 0 =
        .ok (filteredReport, 2) := by
    refine scanLive_eq_ok_iff.mpr ⟨[planChunk], 0, [["c-plan"], []], ?_,
      Dialogue.cons rfl (Dialogue.cons rfl (Dialogue.nil _)), by decide +kernel⟩
    simp only [targetOf, adapter, chunks_planServer]
  refine qdrant_leaks_reported matching_holdsOrContains planServer_filters ?_
    ⟨rfl, rfl, Or.inl rfl⟩ hscan planResult List.mem_cons_self "c-plan" (by decide)
  intro point hpoint chunk hdecode
  have hdecoded : decodePayload (fun _ => none) planPayload = .ok planChunk := rfl
  cases List.mem_singleton.mp hpoint
  cases hdecoded.symm.trans hdecode
  exact ⟨Or.inr ⟨_, rfl⟩, fun _ => rfl⟩

/-! ## Without the filter -/

section Unfiltered

variable {fromisoformat : String → Option DateTime} {server : Server κ Vector}
  {meets : Value → Option String → Prop} {points : List (κ × Value)} {out : List Chunk}

/-- A search without a filter and with room for every point is answered with all of them. -/
def Server.Exhaustive (server : Server κ Vector) (points : List (κ × Value)) : Prop :=
  ∀ asked body, body.filter = none → (points.length : Int) ≤ body.limit →
    ∃ payloads, server.search asked body = some payloads ∧
      ∀ point ∈ points, ∃ payload ∈ payloads,
        payload.entry "chunk_id" = point.2.entry "chunk_id"

/-- Answers that name chunks of the collection are returned as their ids. -/
theorem exists_ids_of_answered (hserver : server.Filters meets points)
    (hdecoded : List.Forall₂ (fun point chunk => decodePayload fromisoformat point.2 = .ok chunk)
      points out) {asked : Nat} {body : SearchRequest Vector} {payloads : List Value}
    (hsearch : server.search asked body = some payloads) :
    ∃ ids, server.retrieve asked body = some ids ∧
      List.Forall₂ (fun payload id => payload.entry "chunk_id" = .str id) payloads ids := by
  have hnamed : ∀ payload ∈ payloads, ∃ id, payload.entry "chunk_id" = .str id := by
    intro payload hpayload
    rcases hserver.answers _ _ _ hsearch payload hpayload with ⟨point, hpoint, hsame, -⟩
    rcases Loop.exists_right_of_mem hdecoded hpoint with ⟨chunk, -, hdecode⟩
    exact ⟨chunk.id, hsame.symm.trans (decodePayload_id hdecode)⟩
  rcases Loop.exists_forall₂ hnamed with ⟨ids, hids⟩
  have hread : idsOf payloads = .ok ids := by
    refine Loop.mapM_eq_ok_iff.mpr (hids.imp fun payload id hid => ?_)
    simp only [Loop.bind_eq_ok, read_eq_ok, validated_eq_ok, asStr_eq_some_iff]
    exact ⟨_, Value.subscript_of_entry hid, rfl⟩
  refine ⟨ids, ?_, hids⟩
  rw [Server.retrieve, hsearch, Option.bind_some, hread]
  rfl

/-- Without the filter the store answers everything. -/
theorem engine_answersEveryone (hserver : server.Filters meets points)
    (hexhaustive : server.Exhaustive points)
    (hdecoded : List.Forall₂ (fun point chunk => decodePayload fromisoformat point.2 = .ok chunk)
      points out) : (engine unfilteredBody server (sortedById out)).AnswersEveryone := by
  intro asked request hroom cid
  have hlength : (sortedById out).length = points.length :=
    (List.mergeSort_perm out _).length_eq.trans hdecoded.length_eq.symm
  have hlimit : (points.length : Int) ≤ (unfilteredBody request).limit := by
    rw [← hlength]
    exact hroom
  rcases hexhaustive asked (unfilteredBody request) rfl hlimit with ⟨payloads, hsearch, hall⟩
  rcases exists_ids_of_answered hserver hdecoded hsearch with ⟨ids, hids, hnamed⟩
  have hanswer : (engine unfilteredBody server (sortedById out)).retrieve asked request = ids := by
    simp only [engine, hids, Option.getD_some]
  rw [hanswer]
  constructor
  · intro hcid
    rcases Loop.exists_left_of_mem hnamed hcid with ⟨payload, hpayload, hid⟩
    rcases hserver.answers _ _ _ hsearch payload hpayload with ⟨point, hpoint, hsame, -⟩
    rcases Loop.exists_right_of_mem hdecoded hpoint with ⟨chunk, hchunk, hdecode⟩
    refine ⟨chunk, (List.mergeSort_perm _ _).mem_iff.mpr hchunk, ?_⟩
    have hids := (decodePayload_id hdecode).symm.trans (hsame.trans hid)
    simpa using hids
  · intro hheld
    rcases hheld with ⟨chunk, hchunk, rfl⟩
    rcases Loop.exists_left_of_mem hdecoded ((List.mergeSort_perm _ _).mem_iff.mp hchunk) with
      ⟨point, hpoint, hdecode⟩
    rcases hall point hpoint with ⟨payload, hpayload, hsame⟩
    rcases Loop.exists_right_of_mem hnamed hpayload with ⟨id, hid, hname⟩
    have hsameId := hname.symm.trans (hsame.trans (decodePayload_id hdecode))
    have heq : id = chunk.id := by simpa using hsameId
    rw [← heq]
    exact hid

/-- The boundary is the filter: through an adapter that does not write it, a scan without a
declared limit finds everything disclosed to everyone that a source denies, whatever the tags. -/
theorem unfiltered_discloses {source : Dict String SourceDocument} {enforcement : String}
    {deterministicVector : String → Nat → Vector} {shared : Shared} {report : VerificationReport}
    {fuel last : Nat} {target : LiveTarget Nat Vector}
    (htarget : target =
      targetOf fromisoformat unfilteredBody server fuel source enforcement none)
    (hserver : server.Filters meets points) (hexhaustive : server.Exhaustive points)
    (hscan : scanLive deterministicVector shared target 0 = .ok (report, last)) :
    ∃ inventory : List Chunk,
      (∀ point ∈ points, ∃ chunk ∈ inventory, decodePayload fromisoformat point.2 = .ok chunk) ∧
        List.Forall₂ (Open (shared.liveScenario target) inventory)
          (questions (shared.liveScenario target)) report.probes := by
  subst htarget
  rcases scanLive_adapter hserver.scroll hscan with ⟨out, hdecoded, hstateless⟩
  refine ⟨sortedById out, fun point hpoint => ?_, ?_⟩
  · rcases Loop.exists_right_of_mem hdecoded hpoint with ⟨chunk, hchunk, hdecode⟩
    exact ⟨chunk, (List.mergeSort_perm _ _).mem_iff.mpr hchunk, hdecode⟩
  · exact open_of_answersEveryone hstateless (nodup_ids_of_decoded hserver hdecoded)
      (engine_answersEveryone hserver hexhaustive hdecoded) rfl

end Unfiltered

theorem planServer_exhaustive : planServer.Exhaustive [(1, planPayload)] := by
  intro asked body hfilter _
  refine ⟨[planPayload], ?_, fun point hpoint => ⟨planPayload, List.mem_singleton_self _, ?_⟩⟩
  · simp only [planServer, hfilter]
  · rw [List.mem_singleton.mp hpoint]

/-- The report of a scan without the filter: the plan is disclosed to the wrong tenant, and only
the right one is answered as it should be. -/
def unfilteredReport : VerificationReport where
  chunksExamined := 1
  chunksUntraceable := 0
  propagation := planFindings
  probes :=
    [planResult,
      { probeId := "q-plan", principalId := "p-globex", returned := ["c-plan"],
        overRetrieved := ∅, underRetrieved := ∅, verdict := .verified, outcome := .clean }]
  probesSkipped := []
  isPartial := false
  enforcementSite := "application"

/-- The scan without the filter. -/
def unfilteredTarget : LiveTarget Nat Unit :=
  targetOf (fun _ => none) unfilteredBody planServer 2 planSource "rule" none

theorem unfiltered_discloses_plan :
    ∃ inventory : List Chunk,
      (∀ point ∈ [(1, planPayload)], ∃ chunk ∈ inventory,
          decodePayload (fun _ => none) point.2 = .ok chunk) ∧
        List.Forall₂ (Open (tenantsShared.liveScenario unfilteredTarget) inventory)
          (questions (tenantsShared.liveScenario unfilteredTarget)) unfilteredReport.probes := by
  have hscan : scanLive (fun _ _ => ()) tenantsShared unfilteredTarget 0 =
      .ok (unfilteredReport, 2) := by
    refine scanLive_eq_ok_iff.mpr ⟨[planChunk], 0, [["c-plan"], ["c-plan"]], ?_,
      Dialogue.cons rfl (Dialogue.cons rfl (Dialogue.nil _)), by decide +kernel⟩
    simp only [unfilteredTarget, targetOf, adapter, chunks_planServer]
  exact unfiltered_discloses rfl planServer_filters planServer_exhaustive hscan

end Qdrant

end Tearline
