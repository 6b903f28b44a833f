import Tearline.Backends.PgVector
import Tearline.LiveScan
import Tearline.Loading
import Tearline.TagStores

/-!
# Scanning through the pgvector adapter

The inventory is read through a connection that may bypass the policy, with row security off for
that transaction, and the retrievals go through one that is subject to it.  The store behind both
may answer from an approximate index, and any statement may fail or be interrupted.

Main results:

- Theorem {lit}`chunks_whole`: an inventory that is returned was read with row security off.
- Theorem {lit}`scanLive_adapter`: a scan that reports is the scan of a store that has no session
  and answers each request under its own principal.
- Theorem {lit}`pgvector_leaks_reported`: behind the tenant policy, whatever a scan finds
  disclosed is contradicted on the propagation axis.
-/

namespace Tearline

namespace PgVector

open Session

/-! ## The inventory -/

/-- A row of the inventory query. -/
structure StoredRow where
  id : Value
  sourceDocumentIds : Value
  ingestedAt : Value
  entitlementState : Value
  tenants : Value
  roles : Value
  principals : Value

/-- The chunk of a row. -/
def decodeRow (coerce : Value → Option DateTime) (row : StoredRow) : Except LoadError Chunk := do
  let sourceDocumentIds ← read (row.sourceDocumentIds.orElse (.list [])).iterate
  let state ← stateOf row.entitlementState
  let tenants ← read (row.tenants.orElse (.list [])).elements
  let roles ← read (row.roles.orElse (.list [])).elements
  let principals ← read (row.principals.orElse (.list [])).elements
  let entitlement ← entitlementOf state tenants roles principals .null
  validated "Chunk" do
    let id ← asStr row.id
    let sourceDocumentIds ← asStrs sourceDocumentIds
    let ingestedAt ← asOptionalDateTime coerce row.ingestedAt
    return {
      id := id
      sourceDocumentIds := sourceDocumentIds
      ingestedAt := ingestedAt
      entitlement := entitlement }

/-- The setting that turns policies off. -/
def rowSecurity : String :=
  "row_security"

/-- What is not for the inventory read to decide: the rows the store holds for given settings,
and what becomes of each statement. -/
structure Reading where
  rows : Settings → List StoredRow
  setting : Fate
  selecting : Fate
  /-- Whether `fetchall` comes to its end. -/
  fetched : Bool
  rollingBack : Fate

/-- How the inventory read fails. -/
inductive InventoryFailure
  /-- `reading every chunk requires a connection that can bypass row-level security, and none was
  supplied. …` -/
  | bypassesRowSecurity
  /-- A statement fails or the program is interrupted. -/
  | store
  /-- A row is no chunk. -/
  | row (e : LoadError)

/-- `SET LOCAL row_security = off` -/
def setRowSecurityOff : Statement Settings Unit := fun settings =>
  ((), settings.set rowSecurity "off")

/-- `SELECT … FROM chunks ORDER BY id`, with the settings it is evaluated under. -/
def selectRows (reading : Reading) : Statement Settings (Settings × List StoredRow) :=
  fun settings => ((settings, reading.rows settings), settings)

/-- The source's `chunks`: the session it leaves on the admin connection, and the chunks. -/
def chunks (coerce : Value → Option DateTime) (admin : Option (Session Settings))
    (reading : Reading) : Option (Session Settings) × Except InventoryFailure (List Chunk) :=
  match admin with
  | none => (none, .error .bypassesRowSecurity)
  | some session =>
      let setting := session.execute reading.setting setRowSecurityOff
      match setting.answer with
      | none => (some setting.session, .error .store)
      | some () =>
          let selected := setting.session.execute reading.selecting (selectRows reading)
          match selected.answer with
          | none => (some selected.session, .error .store)
          | some (_, rows) =>
              if reading.fetched then
                let (session', rolledBack) := selected.session.rollback reading.rollingBack
                if rolledBack then
                  (some session', (rows.mapM (decodeRow coerce)).mapError .row)
                else (some session', .error .store)
              else (some selected.session, .error .store)

/-- An inventory that is returned consists of all the rows that the store holds with row security
off, and leaves no transaction. -/
theorem chunks_whole {coerce : Value → Option DateTime} {admin : Option (Session Settings)}
    {reading : Reading} {out : List Chunk} (h : (chunks coerce admin reading).2 = .ok out) :
    ∃ settings : Settings, settings.get? rowSecurity = some "off" ∧
      List.Forall₂ (fun row chunk => decodeRow coerce row = .ok chunk) (reading.rows settings)
        out ∧
      (chunks coerce admin reading).1 = some .idle := by
  unfold chunks at h ⊢
  cases admin with
  | none => cases h
  | some session =>
      dsimp only at h ⊢
      cases hset : (session.execute reading.setting setRowSecurityOff).answer with
      | none => simp [hset] at h
      | some done =>
          simp only [hset] at h ⊢
          cases hselected : ((session.execute reading.setting setRowSecurityOff).session.execute
              reading.selecting (selectRows reading)).answer with
          | none => simp [hselected] at h
          | some answer =>
              rcases answer with ⟨settings, rows⟩
              rcases evaluated_after hset (evaluated_of_answer hselected) with ⟨before, hvalue⟩
              cases hvalue
              simp only [hselected] at h ⊢
              by_cases hfetched : reading.fetched = true
              · simp only [hfetched, if_true] at h ⊢
                split at h
                · rename_i hrolledBack
                  refine ⟨before.set rowSecurity "off", ?_, ?_, ?_⟩
                  · rw [Dict.get?_set, if_pos rfl]
                  · exact Loop.mapM_eq_ok_iff.mp (Loop.mapError_eq_ok.mp h)
                  · rw [if_pos hrolledBack, rollback_fst hrolledBack]
                · cases h
              · simp [hfetched] at h

/-! ## The adapter -/

/-- What becomes of the statements of a retrieval. -/
structure Fates where
  assigning : Fate
  selecting : Fate
  fetched : Bool
  rollingBack : Fate

/-- The store behind both connections: what it answers to the inventory query and to the
retrieval of a number, and what becomes of their statements. -/
structure Server (Vector : Type) where
  reading : Reading
  rows : Nat → Settings → Vector → Int → List Row
  fates : Nat → Fates

variable {Vector : Type}

/-- The call that a request of a number makes. -/
def Server.call (server : Server Vector) (asked : Nat) (request : RetrievalRequest Vector) :
    Call Vector where
  request := request
  rows := server.rows asked
  assigning := (server.fates asked).assigning
  selecting := (server.fates asked).selecting
  fetched := (server.fates asked).fetched
  rollingBack := (server.fates asked).rollingBack

/-- The two connections of the adapter, and how many retrievals were answered. -/
structure Connections where
  connection : Session Settings
  admin : Option (Session Settings)
  asked : Nat

/-- The source's `PgVectorBackend`. -/
def adapter (coerce : Value → Option DateTime) (server : Server Vector) :
    LiveBackend Connections Vector where
  enforcementSite := "engine"
  chunks := fun s =>
    match (chunks coerce s.admin server.reading).2 with
    | .error _ => .error .store
    | .ok out => .ok (out, { s with admin := (chunks coerce s.admin server.reading).1 })
  retrieve := fun request s =>
    let outcome := retrieve s.connection (server.call s.asked request)
    match outcome.returned with
    | none => .error .store
    | some ids => .ok (ids, { s with connection := outcome.session, asked := s.asked + 1 })

/-- The settings of a transaction in which only the principal was named. -/
def identified (principal : Principal) : Settings :=
  Dict.set ∅ principalSetting (tenantOf principal)

/-- The store without its sessions: each request is answered under its own principal. -/
def engine (server : Server Vector) (inventory : List Chunk) : Backend Vector where
  enforcementSite := "engine"
  chunks := inventory
  retrieve := fun asked request =>
    (server.rows asked (identified request.principal) request.vector request.limit).map Row.id

/-- The policies of the store read nothing but the principal's setting. -/
def Server.ReadsIdentity (server : Server Vector) : Prop :=
  ∀ asked (settings settings' : Settings),
    settings.get? principalSetting = settings'.get? principalSetting →
      server.rows asked settings = server.rows asked settings'

/-- A retrieval that is answered is answered as the store without sessions does, and leaves no
transaction. -/
theorem retrieve_adapter {coerce : Value → Option DateTime} {server : Server Vector}
    (hreads : server.ReadsIdentity) (inventory : List Chunk) {request : RetrievalRequest Vector}
    {s next : Connections} {ids : List String}
    (h : (adapter coerce server).retrieve request s = .ok (ids, next)) :
    ids = (engine server inventory).retrieve s.asked request ∧ next.asked = s.asked + 1 ∧
      next.connection = .idle ∧ next.admin = s.admin := by
  simp only [adapter] at h
  cases hreturned : (retrieve s.connection (server.call s.asked request)).returned with
  | none => simp [hreturned] at h
  | some returned =>
      simp only [hreturned, Except.ok.injEq, Prod.mk.injEq] at h
      rcases h with ⟨rfl, rfl⟩
      rcases returned_retrieve hreturned with ⟨settings, rows, hselected, rfl, hidle⟩
      rcases selected_own hselected with ⟨hown, rfl⟩
      refine ⟨?_, rfl, hidle, rfl⟩
      have hnamed : settings.get? principalSetting =
          (identified request.principal).get? principalSetting := by
        rw [hown, identified, Dict.get?_set, if_pos rfl]
        rfl
      exact congrArg (fun rows => (rows request.vector request.limit).map Row.id)
        (hreads s.asked settings (identified request.principal) hnamed)

/-- What a scan through the adapter points at. -/
def targetOf (coerce : Value → Option DateTime) (server : Server Vector)
    (source : Dict String SourceDocument) (enforcement : String) (annLimit : Option Int) :
    LiveTarget Connections Vector where
  source := source
  backend := adapter coerce server
  enforcement := enforcement
  annLimit := annLimit

section Scans

variable {coerce : Value → Option DateTime} {server : Server Vector}
  {source : Dict String SourceDocument} {enforcement : String} {annLimit : Option Int}
  {deterministicVector : String → Nat → Vector} {shared : Shared} {report : VerificationReport}
  {connection : Session Settings} {admin : Option (Session Settings)} {last : Connections}

/-- Through whatever failures and interruptions a scan through the adapter gets to a report, it is
the report of a scan of the store without its sessions, over the chunks of all the rows that the
store holds with row security off. -/
theorem scanLive_adapter (hreads : server.ReadsIdentity)
    (hscan : scanLive deterministicVector shared
      (targetOf coerce server source enforcement annLimit)
      { connection := connection, admin := admin, asked := 0 } = .ok (report, last)) :
    ∃ settings inventory, settings.get? rowSecurity = some "off" ∧
      List.Forall₂ (fun row chunk => decodeRow coerce row = .ok chunk)
        (server.reading.rows settings) inventory ∧
      scan deterministicVector shared
        ((targetOf coerce server source enforcement annLimit).withStore
          (engine server inventory)) = .ok report := by
  rcases scanLive_eq_ok_iff.mp hscan with
    ⟨inventory, middle, answers, hchunks, hdialogue, hrecorded⟩
  simp only [targetOf, adapter] at hchunks
  cases hread : (chunks coerce admin server.reading).2 with
  | error e => simp [hread] at hchunks
  | ok out =>
      simp only [hread, Except.ok.injEq, Prod.mk.injEq] at hchunks
      rcases hchunks with ⟨rfl, rfl⟩
      rcases chunks_whole hread with ⟨settings, hoff, hdecoded, -⟩
      refine ⟨settings, out, hoff, hdecoded, ?_⟩
      have hanswers := hdialogue.eq_mapIdx_of_step Connections.asked (engine server out).retrieve
        fun request s ids next hanswer => by
          rcases retrieve_adapter hreads out hanswer with ⟨hids, hasked, -⟩
          exact ⟨hids, hasked⟩
      simp only [Nat.zero_add] at hanswers
      refine scan_withStore_of_recorded rfl ?_
      rw [hanswers] at hrecorded
      exact hrecorded

end Scans

/-! ## The tenant policy -/

/-- `cardinality(tenants) > 0 AND current_setting('tearline.principal_tenant', true) = ANY
(tenants)` -/
def chunkTenantIsolation (settings : Settings) (row : StoredRow) : Bool :=
  match row.tenants, settings.get? principalSetting with
  | .list tenants, some tenant =>
      decide (0 < tenants.length) && tenants.any fun t => decide (asStr t = some tenant)
  | _, _ => false

/-- A table with a primary key under the tenant policy: with row security off the whole of it is
read, and a retrieval is answered with ids of rows that the policy admits.  Which of them, and in
which order, is up to the index. -/
structure Server.AppliesPolicy (server : Server Vector) (table : List StoredRow) : Prop where
  readsIdentity : server.ReadsIdentity
  whole : ∀ settings : Settings, settings.get? rowSecurity = some "off" →
    (server.reading.rows settings).Perm table
  key : (table.map StoredRow.id).Nodup
  admitted : ∀ asked settings vector limit, ∀ row ∈ server.rows asked settings vector limit,
    ∃ stored ∈ table, stored.id = .str row.id ∧ chunkTenantIsolation settings stored = true

/-- No row states a tenant without stating an entitlement, and none states an empty tenant. -/
def TenantsStated (coerce : Value → Option DateTime) (table : List StoredRow) : Prop :=
  ∀ row ∈ table, ∀ chunk, decodeRow coerce row = .ok chunk →
    chunk.entitlement.tenants ≠ ∅ →
      chunk.entitlement.state = .stated ∧ "" ∉ chunk.entitlement.tenants

theorem decodeRow_id {coerce : Value → Option DateTime} {row : StoredRow} {chunk : Chunk}
    (h : decodeRow coerce row = .ok chunk) : row.id = .str chunk.id := by
  simp only [decodeRow, Loop.bind_eq_ok, read_eq_ok, validated_eq_ok, Option.bind_eq_bind,
    Option.bind_eq_some_iff, asStr_eq_some_iff] at h
  rcases h with ⟨_, -, _, -, _, -, _, -, _, -, _, -, _, hid, _, -, _, -, hchunk⟩
  cases hchunk
  exact hid

/-- A listed tenant is a tenant of the chunk. -/
theorem mem_tenants_of_decodeRow {coerce : Value → Option DateTime} {row : StoredRow}
    {chunk : Chunk} (h : decodeRow coerce row = .ok chunk) {items : List Value}
    (hitems : row.tenants = .list items) {tenant : String} (htenant : .str tenant ∈ items) :
    tenant ∈ chunk.entitlement.tenants := by
  simp only [decodeRow, Loop.bind_eq_ok, read_eq_ok, validated_eq_ok, entitlementOf,
    Option.bind_eq_bind, Option.bind_eq_some_iff, asStrs_eq_some_iff] at h
  rcases h with ⟨_, -, _, -, tenants, htenants, _, -, _, -, _,
    ⟨texts, rfl, _, -, _, -, _, -, hentitlement⟩, _, -, _, -, _, -, hchunk⟩
  cases hentitlement
  cases hchunk
  have hlisted := Value.iterate_of_elements htenants
  rw [hitems] at hlisted
  cases items with
  | nil => cases htenant
  | cons item items =>
      have hstrs : item :: items = Value.strs texts := Except.ok.inj hlisted
      rw [hstrs, Value.str_mem_strs_iff] at htenant
      exact List.mem_toFinset.mpr htenant

theorem chunkTenantIsolation_identified {principal : Principal} {row : StoredRow}
    (h : chunkTenantIsolation (identified principal) row = true) :
    ∃ items, row.tenants = .list items ∧ .str (tenantOf principal) ∈ items := by
  have hsetting : (identified principal).get? principalSetting = some (tenantOf principal) := by
    rw [identified, Dict.get?_set, if_pos rfl]
  unfold chunkTenantIsolation at h
  split at h
  · rename_i items tenant htenants hgiven
    rw [hsetting] at hgiven
    cases hgiven
    simp only [Bool.and_eq_true, List.any_eq_true, decide_eq_true_eq, asStr_eq_some_iff] at h
    rcases h with ⟨-, item, hitem, rfl⟩
    exact ⟨items, htenants, hitem⟩
  · cases h

/-- Behind the tenant policy the store answers by tag. -/
theorem engine_answersByTag {coerce : Value → Option DateTime} {server : Server Vector}
    {table : List StoredRow} (hpolicy : server.AppliesPolicy table)
    (hstated : TenantsStated coerce table) {rule : EntitlementRule} (hrule : TenantOnly rule)
    {rows : List StoredRow} (hrows : rows.Perm table) {inventory : List Chunk}
    (hdecoded : List.Forall₂ (fun row chunk => decodeRow coerce row = .ok chunk) rows inventory)
    (principals : List Principal) :
    (engine server inventory).AnswersByTag rule principals := by
  intro asked request _ cid hcid
  rcases List.mem_map.mp hcid with ⟨row, hrow, rfl⟩
  rcases hpolicy.admitted _ _ _ _ row hrow with ⟨stored, hstored, hid, hadmitted⟩
  rcases Loop.exists_right_of_mem hdecoded (hrows.mem_iff.mpr hstored) with
    ⟨chunk, hchunk, hdecode⟩
  refine ⟨chunk, hchunk, ?_, ?_⟩
  · have hsame := (decodeRow_id hdecode).symm.trans hid
    simpa using hsame
  · rcases chunkTenantIsolation_identified hadmitted with ⟨items, hitems, hlisted⟩
    have htenant := mem_tenants_of_decodeRow hdecode hitems hlisted
    rcases hstated stored hstored chunk hdecode (Finset.ne_empty_of_mem htenant) with
      ⟨hstate, hempty⟩
    refine (hrule.entitled_iff _ _).mpr ⟨hstate, _, htenant, ?_⟩
    cases hown : request.principal.tenant with
    | none =>
        rw [tenantOf, hown] at htenant
        exact absurd htenant hempty
    | some tenant => rw [tenantOf, hown, Option.getD_some]

/-- The chunks of a table with a primary key have distinct ids. -/
theorem nodup_ids_of_decoded {coerce : Value → Option DateTime} {rows table : List StoredRow}
    (hkey : (table.map StoredRow.id).Nodup) (hrows : rows.Perm table) {inventory : List Chunk}
    (hdecoded : List.Forall₂ (fun row chunk => decodeRow coerce row = .ok chunk) rows
      inventory) : (inventory.map Chunk.id).Nodup := by
  have hids : rows.map StoredRow.id = (inventory.map Chunk.id).map Value.str := by
    rw [List.map_map]
    exact Loop.map_eq_map_of_forall₂ hdecoded fun row chunk h => decodeRow_id h
  have hnodup := (hrows.map StoredRow.id).nodup_iff.mpr hkey
  rw [hids] at hnodup
  exact hnodup.of_map _

/-- Behind the tenant policy, whatever a scan finds disclosed is a chunk that is contradicted on
the propagation axis: the engine enforces the stored tag, and the tag is what is wrong. -/
theorem pgvector_leaks_reported {coerce : Value → Option DateTime} {server : Server Vector}
    {table : List StoredRow} {source : Dict String SourceDocument} {enforcement : String}
    {annLimit : Option Int} {deterministicVector : String → Nat → Vector} {shared : Shared}
    {report : VerificationReport} {connection : Session Settings}
    {admin : Option (Session Settings)} {last : Connections}
    (hpolicy : server.AppliesPolicy table) (hstated : TenantsStated coerce table)
    (hrule : TenantOnly shared.rule)
    (hscan : scanLive deterministicVector shared
      (targetOf coerce server source enforcement annLimit)
      { connection := connection, admin := admin, asked := 0 } = .ok (report, last)) :
    ∀ r ∈ report.probes, ∀ cid ∈ r.overRetrieved,
      ∃ f ∈ report.propagation, f.chunkId = cid ∧ f.verdict = .contradicted := by
  rcases scanLive_adapter hpolicy.readsIdentity hscan with
    ⟨settings, inventory, hoff, hdecoded, hstateless⟩
  have hrows := hpolicy.whole settings hoff
  intro r hr cid hcid
  rcases leak_of_scan hstateless (nodup_ids_of_decoded hpolicy.key hrows hdecoded)
    (engine_answersByTag hpolicy hstated hrule hrows hdecoded _) hr hcid with
    ⟨chunk, -, rfl, hleak⟩
  exact hleak.contradicted fun _ => hrule.boundTrusted _

/-- A table under the tenant policy, in the order in which it is stored. -/
def policyServer (Vector : Type) (table : List StoredRow) : Server Vector where
  reading :=
    { rows := fun settings =>
        if settings.get? rowSecurity = some "off" then table
        else table.filter (chunkTenantIsolation settings)
      setting := .answered
      selecting := .answered
      fetched := true
      rollingBack := .answered }
  rows := fun _ settings _ limit =>
    ((table.filter (chunkTenantIsolation settings)).filterMap fun row =>
      (asStr row.id).map Row.mk).take limit.toNat
  fates := fun _ =>
    { assigning := .answered, selecting := .answered, fetched := true, rollingBack := .answered }

theorem appliesPolicy_policyServer {table : List StoredRow}
    (hkey : (table.map StoredRow.id).Nodup) : (policyServer Vector table).AppliesPolicy table where
  readsIdentity asked settings settings' hsame := by
    have hadmits : chunkTenantIsolation settings = chunkTenantIsolation settings' := by
      funext row
      rw [chunkTenantIsolation, chunkTenantIsolation, hsame]
    simp only [policyServer, hadmits]
  whole settings hoff := by
    simp only [policyServer, if_pos hoff]
    exact List.Perm.refl table
  key := hkey
  admitted asked settings vector limit row hrow := by
    rcases List.mem_filterMap.mp (List.mem_of_mem_take hrow) with ⟨stored, hstored, hrow⟩
    rcases Option.map_eq_some_iff.mp hrow with ⟨id, hid, rfl⟩
    rcases List.mem_filter.mp hstored with ⟨htable, hadmitted⟩
    exact ⟨stored, htable, asStr_eq_some_iff.mp hid, hadmitted⟩

/-- The row of the mislabelled plan. -/
def mislabelledRow : StoredRow where
  id := .str "c-plan"
  sourceDocumentIds := .list [.str "d-plan"]
  ingestedAt := .null
  entitlementState := .str "stated"
  tenants := .list [.str "acme"]
  roles := .list []
  principals := .list []

/-- The report of a scan: the plan is disclosed to one tenant and kept from the other. -/
def mislabelledReport : VerificationReport where
  chunksExamined := 1
  chunksUntraceable := 0
  propagation := planFindings
  probes :=
    [planResult,
      { probeId := "q-plan", principalId := "p-globex", returned := [],
        overRetrieved := ∅, underRetrieved := {"c-plan"}, verdict := .contradicted,
        outcome := .underRetrieval }]
  probesSkipped := []
  isPartial := false
  enforcementSite := "engine"

theorem pgvector_leaks_reported_mislabelled :
    ∃ f ∈ mislabelledReport.propagation, f.chunkId = "c-plan" ∧ f.verdict = .contradicted := by
  have hscan : (scanLive (fun _ _ => ()) tenantsShared
      (targetOf (fun _ => none) (policyServer Unit [mislabelledRow]) planSource "rule" none)
      { connection := .idle, admin := some .idle, asked := 0 }).map Prod.fst =
        .ok mislabelledReport := by
    decide +kernel
  rcases Loop.map_eq_ok.mp hscan with ⟨⟨report, last⟩, hscan, rfl⟩
  refine pgvector_leaks_reported (appliesPolicy_policyServer (by simp)) ?_
    ⟨rfl, rfl, Or.inl rfl⟩ hscan planResult List.mem_cons_self "c-plan" (by decide)
  intro row hrow chunk hdecode _
  have hdecoded : decodeRow (fun _ => none) mislabelledRow = .ok planChunk := rfl
  rw [List.mem_singleton.mp hrow, hdecoded] at hdecode
  cases hdecode
  exact ⟨rfl, by decide⟩

end PgVector

end Tearline
