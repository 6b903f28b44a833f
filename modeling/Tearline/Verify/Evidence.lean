import Mathlib.Data.List.Forall2
import Tearline.CauseAttribution
import Tearline.ExitStatus
import Tearline.Verify.Reordering

/-!
# What a report rests on

More probes and more identities under test add to a report and take nothing from it.  The times
that are on record decide nothing of a report but the causes of mismatches, and its exit status
not at all.

Main results:

- Theorem {lit}`checkPropagation_related`: findings are compared chunk by chunk.
- Theorem {lit}`verify_extended`: what more probes and principals do to a report.
- Theorem {lit}`verify_retimed`: what other timestamps do to it.
-/

namespace Tearline

/-! ## Findings chunk by chunk -/

/-- Where the outcomes of related chunks are related, so are the findings. -/
theorem checkPropagation_related {a b : Scenario} {v w : Variant} {S : Chunk → Chunk → Prop}
    {R : PropagationFinding → PropagationFinding → Prop}
    (hchunks : List.Forall₂ S v.chunks.values w.chunks.values)
    (hchecks : ∀ c d x y, S c d → checkChunk a c = .ok x → checkChunk b d = .ok y →
      Option.Rel R x y)
    {findings findings' : List PropagationFinding} {untraceable untraceable' : Nat}
    (ha : checkPropagation a v = .ok (findings, untraceable))
    (hb : checkPropagation b w = .ok (findings', untraceable')) :
    List.Forall₂ R findings findings' := by
  rcases (checkPropagation_eq_ok_iff _ _ _ _).mp ha with ⟨outcomes, houtcomes, rfl, -⟩
  rcases (checkPropagation_eq_ok_iff _ _ _ _).mp hb with ⟨outcomes', houtcomes', rfl, -⟩
  have hrelated := Loop.forall₂_partners hchunks houtcomes houtcomes' hchecks
  exact List.rel_filterMap (fun _ _ h => h) hrelated

/-! ## More probes and principals -/

/-- A finding about the same chunk that says the same or, of a tag within the safe bound, that it
is beyond it. -/
structure Sharper (f f' : PropagationFinding) : Prop where
  chunkId : f'.chunkId = f.chunkId
  observed : f'.observed = f.observed
  expected : f'.expected = f.expected
  said : f' = f ∨ f.cause = .indeterminateSource ∧ f'.cause = .exceedsSafeBound

theorem Sharper.refl (f : PropagationFinding) : Sharper f f :=
  ⟨rfl, rfl, rfl, Or.inl rfl⟩

section Extended

variable {a b : Scenario} {v : Variant}

end Extended

/-- The chunk without the time of its ingestion. -/
def Chunk.untimed (chunk : Chunk) : Chunk :=
  { chunk with ingestedAt := none }

/-- The scenarios differ in no more than what their documents state besides their entitlements. -/
structure Scenario.Retimed (a b : Scenario) : Prop where
  documents : ∀ id, (a.documents.get? id).map SourceDocument.entitlement =
    (b.documents.get? id).map SourceDocument.entitlement
  principals : a.principals = b.principals
  probes : a.probes = b.probes
  rule : a.rule = b.rule

/-- The indexes differ in no more than when their chunks were ingested. -/
structure Variant.Retimed (v w : Variant) : Prop where
  chunks : v.chunks.values.map Chunk.untimed = w.chunks.values.map Chunk.untimed
  enforcement : v.enforcement = w.enforcement
  annLimit : v.annLimit = w.annLimit

/-- A finding that says the same but for such a cause. -/
structure Recaused (f f' : PropagationFinding) : Prop where
  rest : f' = { f with cause := f'.cause }
  cause : f'.cause = f.cause ∨ f.cause ∈ timestampCauses ∧ f'.cause ∈ timestampCauses

theorem Chunk.untimed_eq_iff (c d : Chunk) :
    c.untimed = d.untimed ↔
      c.id = d.id ∧ c.sourceDocumentIds = d.sourceDocumentIds ∧ c.entitlement = d.entitlement := by
  simp [Chunk.untimed]

section Retimed

variable {a b : Scenario} {v w : Variant}

/-- The located sources of a chunk state the same entitlements. -/
theorem locatedSources_retimed (h : a.Retimed b) {c d : Chunk} (hchunk : c.untimed = d.untimed) :
    (locatedSources a c).map SourceDocument.entitlement =
      (locatedSources b d).map SourceDocument.entitlement := by
  rcases (Chunk.untimed_eq_iff c d).mp hchunk with ⟨-, hids, -⟩
  rw [locatedSources, locatedSources, List.map_filterMap, List.map_filterMap, hids]
  congr 1
  funext id
  exact h.documents id

theorem isEmpty_locatedSources_retimed (h : a.Retimed b) {c d : Chunk}
    (hchunk : c.untimed = d.untimed) :
    (locatedSources a c).isEmpty = (locatedSources b d).isEmpty := by
  rw [← List.isEmpty_map, locatedSources_retimed h hchunk, List.isEmpty_map]

/-- The check of a chunk says the same but for the cause of a mismatch. -/
theorem checkChunk_retimed (h : a.Retimed b) {c d : Chunk} (hchunk : c.untimed = d.untimed)
    {x y : Option PropagationFinding} (hx : checkChunk a c = .ok x) (hy : checkChunk b d = .ok y) :
    Option.Rel Recaused x y := by
  rcases (Chunk.untimed_eq_iff c d).mp hchunk with ⟨hid, -, hentitlement⟩
  have hsources := locatedSources_retimed h hchunk
  unfold checkChunk at hx hy
  rw [← hid, ← hentitlement] at hy
  cases hlocated : locatedSources a c with
  | nil =>
      rw [hlocated, List.map_nil, eq_comm, List.map_eq_nil_iff] at hsources
      rw [hlocated] at hx
      rw [hsources] at hy
      cases hx
      cases hy
      exact Option.Rel.some ⟨rfl, Or.inl rfl⟩
  | cons first rest =>
      cases rest with
      | nil =>
          rw [hlocated, eq_comm, List.map_singleton, List.map_eq_singleton_iff] at hsources
          rcases hsources with ⟨source, hsource, hsame⟩
          rw [hlocated] at hx
          rw [hsource] at hy
          dsimp only at hx hy
          rw [hsame] at hy
          by_cases hagree : same c.entitlement first.entitlement = true
          · rw [if_pos hagree] at hx hy
            cases hx
            cases hy
            exact Option.Rel.none
          · rw [if_neg hagree] at hx hy
            simp only [Loop.bind_eq_ok, Loop.pure_eq_ok] at hx hy
            rcases hx with ⟨cause, hcause, rfl⟩
            rcases hy with ⟨cause', hcause', rfl⟩
            exact Option.Rel.some
              ⟨rfl, Or.inr ⟨mem_timestampCauses hcause, mem_timestampCauses hcause'⟩⟩
      | cons second rest =>
          have hshape := hsources
          rw [hlocated, eq_comm, List.map_cons, List.map_cons, List.map_eq_cons_iff] at hshape
          rcases hshape with ⟨first', others, hfirst, -, hothers⟩
          rcases List.map_eq_cons_iff.mp hothers with ⟨second', rest', rfl, -, -⟩
          rw [hlocated, hfirst] at hsources
          rw [hlocated] at hx
          rw [hfirst] at hy
          dsimp only at hx hy
          rw [← hsources] at hy
          have hwithin : ∀ bound, withinBound b c.entitlement bound b.principals.values =
              withinBound a c.entitlement bound a.principals.values := by
            intro bound
            rw [withinBound, withinBound, h.rule, h.principals]
          simp only [hwithin] at hy
          cases hx.symm.trans hy
          cases x with
          | none => exact Option.Rel.none
          | some f => exact Option.Rel.some ⟨rfl, Or.inl rfl⟩

/-- As many chunks are untraceable. -/
theorem countP_untraceable_retimed (h : a.Retimed b) (hindex : v.Retimed w) :
    (v.chunks.values.countP fun c => (locatedSources a c).isEmpty) =
      w.chunks.values.countP fun d => (locatedSources b d).isEmpty := by
  calc (v.chunks.values.countP fun c => (locatedSources a c).isEmpty)
      = (v.chunks.values.map Chunk.untimed).countP fun c => (locatedSources a c).isEmpty := by
        rw [List.countP_map]
        rfl
    _ = (w.chunks.values.map Chunk.untimed).countP fun d => (locatedSources a d).isEmpty := by
        rw [hindex.chunks]
    _ = w.chunks.values.countP fun d => (locatedSources a d).isEmpty := by
        rw [List.countP_map]
        rfl
    _ = w.chunks.values.countP fun d => (locatedSources b d).isEmpty := by
        congr 1
        funext d
        exact isEmpty_locatedSources_retimed h rfl

/-- What is found under an id of either index is the same but for its time. -/
theorem get?_retimed (hindex : v.Retimed w) (cid : String) :
    (v.chunks.get? cid).map Chunk.untimed = (w.chunks.get? cid).map Chunk.untimed :=
  v.keyed.map_get?_congr w.keyed (fun _ => rfl : ∀ c : Chunk, c.untimed.id = c.id)
    hindex.chunks cid

/-- An id that is found in both indexes, or in neither. -/
theorem get?_retimed_cases (hindex : v.Retimed w) (cid : String) :
    v.chunks.get? cid = none ∧ w.chunks.get? cid = none ∨
      ∃ c d, v.chunks.get? cid = some c ∧ w.chunks.get? cid = some d ∧ c.untimed = d.untimed := by
  have hfound := get?_retimed hindex cid
  cases hv : v.chunks.get? cid with
  | none =>
      rw [hv, Option.map_none, eq_comm, Option.map_eq_none_iff] at hfound
      exact Or.inl ⟨rfl, hfound⟩
  | some c =>
      rw [hv, Option.map_some, eq_comm, Option.map_eq_some_iff] at hfound
      rcases hfound with ⟨d, hd, hsame⟩
      exact Or.inr ⟨c, d, rfl, hd, hsame.symm⟩

/-- A result does not depend on the timestamps. -/
theorem probeResult_retimed (h : a.Retimed b) (hindex : v.Retimed w) (enforce : Enforcement)
    (probe : Probe) (pid : String) (principal : Principal) (live : Option (List String)) :
    probeResult a v enforce probe pid principal live =
      probeResult b w enforce probe pid principal live := by
  have hlisted : listedStep a v enforce = listedStep b w enforce := by
    funext candidateIds principal live tally cid
    unfold listedStep
    rcases get?_retimed_cases hindex cid with ⟨hv, hw⟩ | ⟨c, d, hv, hw, hchunk⟩
    · rw [hv, hw]
    · have hsources := locatedSources_retimed h hchunk
      have hempty := isEmpty_locatedSources_retimed h hchunk
      rcases (Chunk.untimed_eq_iff c d).mp hchunk with ⟨-, -, hentitlement⟩
      have hreceives : receives enforce candidateIds principal live cid c =
          receives enforce candidateIds principal live cid d := by
        unfold receives
        rw [hentitlement]
      rw [hv, hw]
      dsimp only
      rw [hsources, hempty, h.rule, hreceives]
  have hunlisted : unlistedStep a v = unlistedStep b w := by
    funext probe principal tally cid
    unfold unlistedStep
    rcases get?_retimed_cases hindex cid with ⟨hv, hw⟩ | ⟨c, d, hv, hw, hchunk⟩
    · rw [hv, hw]
    · have hsources := locatedSources_retimed h hchunk
      have hempty := isEmpty_locatedSources_retimed h hchunk
      rw [hv, hw]
      dsimp only
      rw [hsources, hempty, h.rule]
  have habsent : ∀ cid, (v.chunks.get? cid).isNone = (w.chunks.get? cid).isNone := by
    intro cid
    rcases get?_retimed_cases hindex cid with ⟨hv, hw⟩ | ⟨c, d, hv, hw, -⟩
    · rw [hv, hw]
    · rw [hv, hw]
      rfl
  have htally : tallyOf a v enforce probe principal live =
      tallyOf b w enforce probe principal live := by
    cases live with
    | none => simp only [tallyOf, hlisted, hindex.annLimit]
    | some answered => simp only [tallyOf, hlisted, hunlisted, hindex.annLimit]
  simp only [probeResult, htally, habsent]

/-- Nor do the results of a run. -/
theorem runProbes_retimed (h : a.Retimed b) (hindex : v.Retimed w) (retrieve : Option Retrieve) :
    runProbes a v retrieve = runProbes b w retrieve := by
  have hask : ∀ enforce, askStep a v enforce retrieve = askStep b w enforce retrieve := by
    intro enforce
    funext probe results pid
    simp only [askStep, principalNamed, h.principals, hindex.annLimit,
      probeResult_retimed h hindex]
  have hprobe : ∀ enforce, probeStep a v enforce retrieve = probeStep b w enforce retrieve := by
    intro enforce
    funext acc probe
    simp only [probeStep, hask]
  simp only [runProbes, h.rule, hindex.enforcement, h.probes, hprobe]

/-- Reports under different timestamps are the same but for the causes of mismatches, and exit
alike. -/
theorem verify_retimed (h : a.Retimed b) (hindex : v.Retimed w) {retrieve : Option Retrieve}
    {site : String} {report report' : VerificationReport}
    (ha : verify a v retrieve site = .ok report) (hb : verify b w retrieve site = .ok report') :
    report' = { report with propagation := report'.propagation } ∧
      List.Forall₂ Recaused report.propagation report'.propagation ∧
      exitStatus report = exitStatus report' := by
  rcases (verify_eq_ok_iff _ _ _ _ _).mp ha with ⟨hcheck, hrun, hexamined, hflag, hsite⟩
  rcases (verify_eq_ok_iff _ _ _ _ _).mp hb with ⟨hcheck', hrun', hexamined', hflag', hsite'⟩
  have hchunks : List.Forall₂ (fun c d => c.untimed = d.untimed) v.chunks.values
      w.chunks.values := by
    have hsame : List.Forall₂ Eq (v.chunks.values.map Chunk.untimed)
        (w.chunks.values.map Chunk.untimed) := by
      rw [hindex.chunks]
      exact List.forall₂_same.mpr fun _ _ => rfl
    rwa [List.forall₂_map_left_iff, List.forall₂_map_right_iff] at hsame
  have hfindings := checkPropagation_related hchunks
    (fun c d x y hchunk hx hy => checkChunk_retimed h hchunk hx hy) hcheck hcheck'
  have hlength : report.chunksExamined = report'.chunksExamined := by
    rw [hexamined, hexamined']
    exact hchunks.length_eq
  have huntraceable : report.chunksUntraceable = report'.chunksUntraceable := by
    rcases (checkPropagation_eq_ok_iff _ _ _ _).mp hcheck with ⟨-, -, -, hcount⟩
    rcases (checkPropagation_eq_ok_iff _ _ _ _).mp hcheck' with ⟨-, -, -, hcount'⟩
    rw [hcount, hcount', countP_untraceable_retimed h hindex]
  rw [runProbes_retimed h hindex] at hrun
  have hresults := Except.ok.inj (hrun.symm.trans hrun')
  rw [Prod.mk.injEq] at hresults
  have hpartial : report.isPartial = report'.isPartial := by
    rw [hflag, hflag', hresults.1, hresults.2]
  refine ⟨?_, hfindings, ?_⟩
  · cases report
    cases report'
    simp_all
  · have hempty : report.propagation.isEmpty = report'.propagation.isEmpty := by
      rw [Bool.eq_iff_iff, List.isEmpty_iff_length_eq_zero, List.isEmpty_iff_length_eq_zero,
        hfindings.length_eq]
    rw [exitStatus, exitStatus, hempty, hresults.1, hpartial]

end Retimed

/-- A deck that was narrowed to one tenant, with the time of the change if it is on record. -/
def narrowed (aclModifiedAt : Option DateTime) : Scenario :=
  Scenario.ofLists "narrowed"
    [{ id := "doc-007", system := "fixture-kb",
       entitlement := { state := .stated, tenants := {"acme"}, roles := {"everyone"} },
       label := some "Quarterly planning deck", aclModifiedAt := aclModifiedAt }]
    [{ id := "p-acme-eng", label := "Acme engineer", tenant := some "acme" },
      { id := "p-globex-eng", label := "Globex engineer", tenant := some "globex" }]
    [{ id := "pr-005", query := "quarterly planning",
       principals := ["p-acme-eng", "p-globex-eng"], matchIds := ["c-0071"] }]
    { system := "fixture-kb", tenant := .member, role := .intersectsOrEveryone,
      direct := .principalListed, combine := .tenantAndRoleOrDirect }

/-- An index that still holds the wider entitlement. -/
def narrowedIndex (ingestedAt : Option DateTime) : Variant :=
  Variant.ofChunks "drifted"
    [{ id := "c-0071", sourceDocumentIds := ["doc-007"],
       entitlement := { state := .stated, tenants := {"acme", "globex"}, roles := {"everyone"} },
       ingestedAt := ingestedAt }] "rule" none

/-- Its report, up to the cause. -/
def narrowedReport (cause : MismatchCause) : VerificationReport where
  chunksExamined := 1
  chunksUntraceable := 0
  propagation :=
    [{ chunkId := "c-0071", verdict := .contradicted, cause := cause
       observed := { state := .stated, tenants := {"acme", "globex"}, roles := {"everyone"} }
       expected := some { state := .stated, tenants := {"acme"}, roles := {"everyone"} } }]
  probes :=
    [{ probeId := "pr-005", principalId := "p-acme-eng", returned := ["c-0071"],
       overRetrieved := ∅, underRetrieved := ∅, verdict := .verified, outcome := .clean },
      { probeId := "pr-005", principalId := "p-globex-eng", returned := ["c-0071"],
        overRetrieved := {"c-0071"}, underRetrieved := ∅, verdict := .contradicted,
        outcome := .overRetrieval }]
  probesSkipped := []
  isPartial := false

theorem verify_retimed_narrowed :
    narrowedReport .undetermined =
        { narrowedReport .drift with propagation := (narrowedReport .undetermined).propagation } ∧
      List.Forall₂ Recaused (narrowedReport .drift).propagation
        (narrowedReport .undetermined).propagation ∧
      exitStatus (narrowedReport .drift) = exitStatus (narrowedReport .undetermined) := by
  have hdocuments : (narrowed (some (.aware 2))).Retimed (narrowed none) := by
    refine ⟨fun id => ?_, rfl, rfl, rfl⟩
    by_cases hid : "doc-007" = id
    · simp [narrowed, Scenario.ofLists, Dict.get?_ofValues, hid]
    · simp [narrowed, Scenario.ofLists, Dict.get?_ofValues, hid]
  exact verify_retimed hdocuments
    (⟨by decide +kernel, rfl, rfl⟩ : (narrowedIndex (some (.aware 1))).Retimed (narrowedIndex none))
    (by decide +kernel : verify (narrowed (some (.aware 2))) (narrowedIndex (some (.aware 1))) none
      "simulated" = .ok (narrowedReport .drift))
    (by decide +kernel : verify (narrowed none) (narrowedIndex none) none "simulated" =
      .ok (narrowedReport .undetermined))

end Tearline
