import Mathlib.Algebra.Order.BigOperators.Group.List
import Mathlib.Algebra.Order.Ring.Nat
import Mathlib.Data.List.Dedup
import Tearline.Verify.Report

/-!
# Two distinct identities

A probe is asked under every principal it names, once for each time it names one.  Whether it
is asked at all is decided by how many names it lists, and not by how many of them differ.

Main results:

- Theorem {lit}`map_resultKey`: the results of a run, probe by probe.
- Theorem {lit}`onlyUnderTwo_iff`: the results isolate distinct identities exactly when no
  probe that is asked repeats one.
-/

namespace Tearline

/-! ## What a probe contributes -/

/-- The probe and the principal of a result. -/
def resultKey (r : ProbeResult) : String × String :=
  (r.probeId, r.principalId)

/-- The probe and the principal of every result a probe contributes. -/
def contributed (probe : Probe) : List (String × String) :=
  if probe.runnable then probe.principals.map fun pid => (probe.id, pid) else []

private theorem map_askedOf {scenario : Scenario} {probe : Probe}
    (hdeclared : ∀ pid ∈ probe.principals, ∃ principal,
      scenario.principals.get? pid = some principal) :
    (askedOf scenario probe).map (fun asked => (asked.1.id, asked.2.1)) =
      probe.principals.map fun pid => (probe.id, pid) := by
  have hasked : ∀ pid ∈ probe.principals,
      ((scenario.principals.get? pid).map fun principal => (probe, pid, principal)).map
        (fun asked => (asked.1.id, asked.2.1)) = some (probe.id, pid) := by
    intro pid hpid
    rcases hdeclared pid hpid with ⟨principal, hfound⟩
    rw [hfound]
    rfl
  rw [askedOf, List.map_filterMap, List.filterMap_congr hasked]
  exact congrFun List.filterMap_eq_map' probe.principals

private theorem flatMap_askedOf {scenario : Scenario} {probes : List Probe}
    (hdeclared : ∀ probe ∈ probes, probe.runnable = true → ∀ pid ∈ probe.principals,
      ∃ principal, scenario.principals.get? pid = some principal) :
    ((probes.filter Probe.runnable).flatMap (askedOf scenario)).map
        (fun asked => (asked.1.id, asked.2.1)) = probes.flatMap contributed := by
  induction probes with
  | nil => rfl
  | cons probe probes ih =>
      rw [List.forall_mem_cons] at hdeclared
      rw [List.flatMap_cons, ← ih hdeclared.2]
      by_cases hrunnable : probe.runnable = true
      · rw [List.filter_cons_of_pos hrunnable, List.flatMap_cons, List.map_append,
          map_askedOf (hdeclared.1 hrunnable), contributed, if_pos hrunnable]
      · rw [List.filter_cons_of_neg hrunnable, contributed, if_neg hrunnable, List.nil_append]

/-- The results of a run are those its probes contribute, in order. -/
theorem map_resultKey {scenario : Scenario} {variant : Variant} {retrieve : Option Retrieve}
    {results : List ProbeResult} {skipped : List String}
    (hrun : runProbes scenario variant retrieve = .ok (results, skipped)) :
    results.map resultKey = scenario.probes.flatMap contributed := by
  rcases (runProbes_eq_ok_iff _ _ _ _ _).mp hrun with ⟨enforce, -, hdeclared, rfl, -⟩
  rw [List.map_map, ← flatMap_askedOf hdeclared]
  apply List.ext_getElem
  · simp [questions]
  · intro n _ _
    simp [questions, resultKey, answerTo, probeResult]

/-! ## Isolation of distinct identities -/

/-- How many distinct identities a probe names. -/
def Probe.identities (probe : Probe) : Nat :=
  probe.principals.dedup.length

/-- The results a probe should contribute: none under fewer than two identities, and otherwise
one for each of them. -/
structure Isolates (probe : Probe) (results : List ProbeResult) : Prop where
  probeId : ∀ r ∈ results, r.probeId = probe.id
  few : probe.identities < 2 → results = []
  enough : 2 ≤ probe.identities →
    (results.map ProbeResult.principalId).Perm probe.principals.dedup

/-- The results fall into one block for each probe, the probes under fewer than two identities
and no others are skipped, and a report with such a probe is partial. -/
def OnlyUnderTwo (scenario : Scenario) (report : VerificationReport) : Prop :=
  (∃ blocks, report.probes = blocks.flatten ∧
    List.Forall₂ Isolates scenario.probes blocks) ∧
  report.probesSkipped =
    (scenario.probes.filter fun probe => decide (probe.identities < 2)).map Probe.id ∧
  ∀ probe ∈ scenario.probes, probe.identities < 2 → report.isPartial = true

/-- How many results isolate the identities of a probe. -/
private def isolated (probe : Probe) : Nat :=
  if probe.identities < 2 then 0 else probe.identities

private theorem length_of_isolates {probe : Probe} {results : List ProbeResult}
    (h : Isolates probe results) : results.length = isolated probe := by
  unfold isolated
  by_cases hfew : probe.identities < 2
  · rw [if_pos hfew, h.few hfew]
    rfl
  · have hlength := (h.enough (Nat.le_of_not_lt hfew)).length_eq
    rw [List.length_map] at hlength
    rw [if_neg hfew, hlength, Probe.identities]

private theorem length_flatten_of_isolates {probes : List Probe}
    {blocks : List (List ProbeResult)} (h : List.Forall₂ Isolates probes blocks) :
    blocks.flatten.length = (probes.map isolated).sum := by
  induction h with
  | nil => rfl
  | cons hhead _ ih =>
      rw [List.flatten_cons, List.length_append, List.map_cons, List.sum_cons, ih,
        length_of_isolates hhead]

theorem Probe.identities_le (probe : Probe) : probe.identities ≤ probe.principals.length :=
  (List.dedup_sublist probe.principals).length_le

/-- A probe names no identity twice exactly when it lists as many names as identities. -/
theorem Probe.identities_eq_iff (probe : Probe) :
    probe.identities = probe.principals.length ↔ probe.principals.Nodup := by
  constructor
  · intro hlength
    exact List.dedup_eq_self.mp
      ((List.dedup_sublist probe.principals).eq_of_length hlength)
  · intro hnodup
    rw [Probe.identities, hnodup.dedup]

private theorem isolated_le (probe : Probe) : isolated probe ≤ (contributed probe).length := by
  have hle := probe.identities_le
  unfold isolated contributed Probe.runnable
  by_cases hrunnable : 2 ≤ probe.principals.length
  · simp only [decide_eq_true hrunnable, if_true, List.length_map]
    split_ifs <;> omega
  · rw [if_pos (show probe.identities < 2 by omega)]
    exact Nat.zero_le _

private theorem isolated_lt {probe : Probe} (hrunnable : probe.runnable = true)
    (hrepeat : ¬ probe.principals.Nodup) : isolated probe < (contributed probe).length := by
  have hne := mt probe.identities_eq_iff.mp hrepeat
  have hle := probe.identities_le
  have htwo : 2 ≤ probe.principals.length := of_decide_eq_true hrunnable
  unfold isolated contributed
  rw [if_pos hrunnable, List.length_map]
  split_ifs <;> omega

/-- A probe whose names differ, if it is asked, is asked under all its identities. -/
theorem Probe.runnable_eq {probe : Probe}
    (h : probe.runnable = true → probe.principals.Nodup) :
    probe.runnable = !decide (probe.identities < 2) := by
  by_cases hrunnable : probe.runnable = true
  · have htwo : 2 ≤ probe.principals.length := of_decide_eq_true hrunnable
    have hall := probe.identities_eq_iff.mpr (h hrunnable)
    rw [hrunnable, decide_eq_false (by omega), Bool.not_false]
  · have hone : ¬ 2 ≤ probe.principals.length := fun htwo => hrunnable (decide_eq_true htwo)
    have hle := probe.identities_le
    rw [Bool.not_eq_true] at hrunnable
    rw [hrunnable, decide_eq_true (by omega), Bool.not_true]

/-- What a probe that repeats no name contributes isolates its identities. -/
theorem isolates_of_contributed {probe : Probe} {results : List ProbeResult}
    (h : probe.runnable = true → probe.principals.Nodup)
    (hresults : results.map resultKey = contributed probe) : Isolates probe results := by
  have heq := Probe.runnable_eq h
  by_cases hrunnable : probe.runnable = true
  · rw [contributed, if_pos hrunnable] at hresults
    have hnames : results.map ProbeResult.principalId = probe.principals := by
      have hsnd := congrArg (List.map Prod.snd) hresults
      rw [List.map_map, List.map_map] at hsnd
      exact hsnd.trans (List.map_id probe.principals)
    refine ⟨?_, ?_, ?_⟩
    · intro r hr
      have hkey : resultKey r ∈ probe.principals.map fun pid => (probe.id, pid) :=
        hresults ▸ List.mem_map_of_mem hr
      rcases List.mem_map.mp hkey with ⟨pid, -, hpid⟩
      exact (congrArg Prod.fst hpid).symm
    · intro hfew
      rw [hrunnable, decide_eq_true hfew] at heq
      cases heq
    · intro _
      rw [hnames, (h hrunnable).dedup]
  · rw [contributed, if_neg hrunnable, List.map_eq_nil_iff] at hresults
    subst hresults
    refine ⟨fun r hr => absurd hr List.not_mem_nil, fun _ => rfl, ?_⟩
    intro hmany
    rw [decide_eq_false (Nat.not_lt.mpr hmany), Bool.not_false] at heq
    exact absurd heq hrunnable

private theorem filter_not_runnable {probes : List Probe}
    (h : ∀ probe ∈ probes, probe.runnable = true → probe.principals.Nodup) :
    (probes.filter fun probe => !probe.runnable) =
      probes.filter fun probe => decide (probe.identities < 2) := by
  apply List.filter_congr
  intro probe hprobe
  rw [Probe.runnable_eq (h probe hprobe), Bool.not_not]

/-- Where every probe contributes one result for each identity, no probe that is asked repeats
a name. -/
private theorem nodup_of_isolates {probes : List Probe} {results : List ProbeResult}
    (hkeys : results.map resultKey = probes.flatMap contributed)
    {blocks : List (List ProbeResult)} (hflatten : results = blocks.flatten)
    (hblocks : List.Forall₂ Isolates probes blocks) {probe : Probe} (hprobe : probe ∈ probes)
    (hrunnable : probe.runnable = true) : probe.principals.Nodup := by
  by_contra hrepeat
  have hlt : (probes.map isolated).sum <
      (probes.map fun probe => (contributed probe).length).sum :=
    List.sum_lt_sum _ _ (fun probe _ => isolated_le probe)
      ⟨probe, hprobe, isolated_lt hrunnable hrepeat⟩
  rw [← length_flatten_of_isolates hblocks, ← hflatten, ← List.length_map resultKey, hkeys,
    List.length_flatMap] at hlt
  exact Nat.lt_irrefl _ hlt

/-- Where no probe that is asked repeats a name, every probe contributes one result for each
identity. -/
private theorem exists_isolates {probes : List Probe} {results : List ProbeResult}
    (hkeys : results.map resultKey = probes.flatMap contributed)
    (hnodup : ∀ probe ∈ probes, probe.runnable = true → probe.principals.Nodup) :
    ∃ blocks, results = blocks.flatten ∧ List.Forall₂ Isolates probes blocks := by
  rcases Loop.exists_blocks hkeys with ⟨blocks, hflatten, hblocks⟩
  refine ⟨blocks, hflatten, ?_⟩
  rw [List.forall₂_iff_zip] at hblocks ⊢
  refine ⟨hblocks.1, ?_⟩
  intro probe block hmem
  exact isolates_of_contributed (hnodup probe (List.of_mem_zip hmem).1) (hblocks.2 hmem)

/-- A report holds isolation tests of distinct identities only, one for each identity, exactly
when no probe that lists two names or more lists one of them twice. -/
theorem onlyUnderTwo_iff {scenario : Scenario} {variant : Variant} {retrieve : Option Retrieve}
    {site : String} {report : VerificationReport}
    (hverify : verify scenario variant retrieve site = .ok report) :
    OnlyUnderTwo scenario report ↔
      ∀ probe ∈ scenario.probes, probe.runnable = true → probe.principals.Nodup := by
  rcases (verify_eq_ok_iff _ _ _ _ _).mp hverify with ⟨-, hrun, -, hflag, -⟩
  have hkeys := map_resultKey hrun
  constructor
  · intro honly probe hprobe hrunnable
    rcases honly with ⟨⟨blocks, hflatten, hblocks⟩, -, -⟩
    exact nodup_of_isolates hkeys hflatten hblocks hprobe hrunnable
  · intro hnodup
    rcases (runProbes_eq_ok_iff _ _ _ _ _).mp hrun with ⟨-, -, -, -, hskipped⟩
    rw [filter_not_runnable hnodup] at hskipped
    refine ⟨exists_isolates hkeys hnodup, hskipped, ?_⟩
    intro probe hprobe hfew
    have hmem : probe.id ∈ report.probesSkipped := by
      rw [hskipped]
      exact List.mem_map_of_mem (List.mem_filter.mpr ⟨hprobe, decide_eq_true hfew⟩)
    rw [hflag, Bool.or_eq_true]
    left
    cases hempty : report.probesSkipped with
    | nil => simp [hempty] at hmem
    | cons first rest => rfl

/-- One identity named twice, and a page of its tenant. -/
def repeated : Scenario :=
  Scenario.ofLists "repeated"
    [{ id := "d-rota", system := "wiki",
       entitlement := { state := .stated, tenants := {"acme"} } }]
    [{ id := "p-ada", label := "Ada", tenant := some "acme" }]
    [{ id := "q-rota", query := "rota", principals := ["p-ada", "p-ada"],
       matchIds := ["c-rota"] }]
    { system := "wiki", tenant := .member, role := .ignored, direct := .ignored,
      combine := .tenantAndRole }

/-- An index of {lit}`repeated`. -/
def repeatedIndex : Variant :=
  Variant.ofChunks "clean"
    [{ id := "c-rota", sourceDocumentIds := ["d-rota"],
       entitlement := { state := .stated, tenants := {"acme"} } }] "rule" none

/-- Its report: the one identity is counted as an isolation test, twice over. -/
def repeatedReport : VerificationReport where
  chunksExamined := 1
  chunksUntraceable := 0
  propagation := []
  probes := List.replicate 2
    { probeId := "q-rota", principalId := "p-ada", returned := ["c-rota"], overRetrieved := ∅,
      underRetrieved := ∅, verdict := .verified, outcome := .clean }
  probesSkipped := []
  isPartial := false

theorem repeated_not_isolated :
    verify repeated repeatedIndex none "simulated" = .ok repeatedReport ∧
      ¬ OnlyUnderTwo repeated repeatedReport := by
  refine ⟨by decide +kernel, ?_⟩
  intro honly
  have hskipped := honly.2.1
  revert hskipped
  decide +kernel

theorem onlyUnderTwo_iff_repeated :
    OnlyUnderTwo repeated repeatedReport ↔
      ∀ probe ∈ repeated.probes, probe.runnable = true → probe.principals.Nodup :=
  onlyUnderTwo_iff (by decide +kernel :
    verify repeated repeatedIndex none "simulated" = .ok repeatedReport)

end Tearline
