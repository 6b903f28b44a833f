import Tearline.Evaluate.Score
import Tearline.ExitStatus
import Tearline.Library.Value

/-!
# Reports as text

A report is printed as two lines about the run and then as one or two lines for everything the run
has found.  Whoever reads the lines and whoever reads the exit status alone are told the same.

Main results:

- Theorem {lit}`body_clean_iff`: when nothing but undetermined returns is printed.
- Theorem {lit}`printed_iff_exitStatus`: this is so exactly when the exit status is zero.
-/

namespace Tearline

/-! ## Printed values -/

/-- `f"{text:{width}}"`: the text, filled up with blanks. -/
def padTo (width : Nat) (text : String) : String :=
  text ++ String.ofList (List.replicate (width - text.length) ' ')

/-- A label in a column of its own. -/
def columned (width : Nat) (text : String) : String :=
  "  " ++ padTo width text ++ " "

/-- `f"{sorted(ids)}"`; how a single text is printed in it is left open. -/
def printedIds (repr : String → String) (ids : Finset String) : String :=
  "[" ++ ", ".intercalate ((Value.sortedTexts ids).map repr) ++ "]"

/-- `f"{flag}"` -/
def printedFlag (flag : Bool) : String :=
  if flag then "True" else "False"

/-- `SITE_MEANING`: what each enforcement site means for a clean result. -/
def siteMeanings : List (String × String) :=
  [("engine",
      "the database evaluated the policy, so retrieval code that omits its filter still cannot " ++
      "read another tenant's rows. What that does not establish is whether the policy expresses " ++
      "the source system's ACL, which is what the propagation findings above address."),
    ("application",
      "the boundary was applied by retrieval code, not by the store. A clean result says this " ++
      "query path filtered correctly; it says nothing about any other query path against the " ++
      "same collection, and the store does not require one."),
    ("simulated",
      "probes were computed from the fixture's authored expectations. No store was asked, so " ++
      "nothing here establishes that a real index applies the boundary.")]

/-- The enforcement sites that mean something. -/
def enforcementSites : List String :=
  siteMeanings.map Prod.fst

/-! ## Lines -/

/-- The first line. -/
def headLine (report : VerificationReport) (title : String) : String :=
  title ++ ": " ++ toString report.chunksExamined ++ " chunks, " ++
    toString report.chunksUntraceable ++ " untraceable, partial=" ++ printedFlag report.isPartial

/-- The second line. -/
def siteLine (report : VerificationReport) (meaning : String) : String :=
  "  enforcement site: " ++ report.enforcementSite ++ " -- " ++ meaning

/-- The lines about a finding. -/
def findingLines (f : PropagationFinding) : List String :=
  (columned 13 f.verdict.value ++ (f.chunkId ++ "  cause=" ++ f.cause.value)) ::
    if f.detail ≠ "" then ["      " ++ f.detail] else []

/-- The line about a result that is not clean. -/
def outcomeLines (repr : String → String) (p : ProbeResult) : List String :=
  if p.outcome = .clean then []
  else
    [columned 15 p.outcome.value ++ (p.probeId ++ "/" ++ p.principalId ++
      " over=" ++ printedIds repr p.overRetrieved ++
      " under=" ++ printedIds repr p.underRetrieved)]

/-- The lines about what a result leaves open. -/
def gapLines (repr : String → String) (p : ProbeResult) : List String :=
  (if p.undeterminedReturned ≠ ∅ then
    [columned 15 "undetermined" ++ (p.probeId ++ "/" ++ p.principalId ++ " " ++
      printedIds repr p.undeterminedReturned ++ ": returned, and no source document " ++
      "establishes whether that was permitted. Not counted as a disclosure")] else []) ++
  if p.absentFromIndex ≠ ∅ then
    [columned 15 "not-in-index" ++ (p.probeId ++ "/" ++ p.principalId ++ " " ++
      printedIds repr p.absentFromIndex ++ ": the probe names chunks the index does not " ++
      "hold, so it exercised less of the boundary than it describes")] else []

/-- The line about a probe that was not run. -/
def skippedLine (probeId : String) : String :=
  columned 15 "not-run" ++ (probeId ++
    ": fewer than two identities; nothing about the boundary was exercised")

/-- The lines about what was found. -/
def bodyLines (repr : String → String) (report : VerificationReport) : List String :=
  report.propagation.flatMap findingLines ++ report.probes.flatMap (outcomeLines repr) ++
    report.probes.flatMap (gapLines repr) ++ report.probesSkipped.map skippedLine

/-- What was printed, and what was raised after it if anything was. -/
structure Printed where
  lines : List String
  raised : Option PyError := none
deriving DecidableEq

/-- The source's `_print_report`. -/
def printReport (repr : String → String) (report : VerificationReport) (title : String) :
    Printed :=
  match siteMeanings.lookup report.enforcementSite with
  | none => { lines := [headLine report title], raised := some (.keyError report.enforcementSite) }
  | some meaning =>
      { lines := headLine report title :: siteLine report meaning :: bodyLines repr report }

/-! ## Labels -/

/-- The line says that something undetermined was returned. -/
def SaysUndetermined (line : String) : Prop :=
  Evaluate.startsWith (columned 15 "undetermined") line = true

/-- A line under another label does not. -/
theorem not_saysUndetermined {start : String} (hlength : 7 ≤ start.toList.length)
    (hstart : start.toList.take 7 ≠ (columned 15 "undetermined").toList.take 7) (rest : String) :
    ¬ SaysUndetermined (start ++ rest) := by
  rw [SaysUndetermined, Evaluate.startsWith, List.isPrefixOf_iff_prefix]
  intro hlabel
  rcases hlabel with ⟨tail, htail⟩
  have htake := congrArg (List.take 7) htail
  rw [String.toList_append, List.take_append_of_le_length (by decide),
    List.take_append_of_le_length hlength] at htake
  exact hstart htake.symm

theorem saysUndetermined (rest : String) :
    SaysUndetermined (columned 15 "undetermined" ++ rest) := by
  rw [SaysUndetermined, Evaluate.startsWith, List.isPrefixOf_iff_prefix, String.toList_append]
  exact List.prefix_append _ _

/-! ## What the lines say -/

theorem finding_not_saysUndetermined (f : PropagationFinding) :
    ¬ ∀ line ∈ findingLines f, SaysUndetermined line := by
  intro hlines
  have hfirst := hlines _ List.mem_cons_self
  cases hverdict : f.verdict with
  | verified =>
      rw [hverdict] at hfirst
      exact not_saysUndetermined (by decide) (by decide) _ hfirst
  | contradicted =>
      rw [hverdict] at hfirst
      exact not_saysUndetermined (by decide) (by decide) _ hfirst
  | unverifiable =>
      rw [hverdict] at hfirst
      exact not_saysUndetermined (by decide) (by decide) _ hfirst

theorem outcomeLines_saysUndetermined_iff (repr : String → String) (p : ProbeResult) :
    (∀ line ∈ outcomeLines repr p, SaysUndetermined line) ↔ p.outcome = .clean := by
  unfold outcomeLines
  cases houtcome : p.outcome with
  | clean => simp
  | overRetrieval | underRetrieval | both | notRun =>
      simp only [reduceCtorEq, if_false, List.forall_mem_singleton, iff_false]
      exact not_saysUndetermined (by decide) (by decide) _

theorem gapLines_saysUndetermined_iff (repr : String → String) (p : ProbeResult) :
    (∀ line ∈ gapLines repr p, SaysUndetermined line) ↔ p.absentFromIndex = ∅ := by
  unfold gapLines
  rw [List.forall_mem_append]
  constructor
  · intro hlines
    by_contra habsent
    have hline := hlines.2
    rw [if_pos habsent, List.forall_mem_singleton] at hline
    exact not_saysUndetermined (by decide) (by decide) _ hline
  · intro habsent
    refine ⟨?_, by simp [habsent]⟩
    split_ifs
    · rw [List.forall_mem_singleton]
      exact saysUndetermined _
    · simp

theorem skippedLine_not_saysUndetermined (probeId : String) :
    ¬ SaysUndetermined (skippedLine probeId) :=
  not_saysUndetermined (by decide) (by decide) _

/-- Nothing but undetermined returns is printed exactly when there is no finding, no result has a
defect or an absent chunk, and no probe was skipped. -/
theorem body_clean_iff (repr : String → String) (report : VerificationReport) :
    (∀ line ∈ bodyLines repr report, SaysUndetermined line) ↔
      report.propagation = [] ∧ (∀ p ∈ report.probes, p.outcome = .clean) ∧
        (∀ p ∈ report.probes, p.absentFromIndex = ∅) ∧ report.probesSkipped = [] := by
  simp only [bodyLines, List.forall_mem_append, List.forall_mem_flatMap, List.forall_mem_map,
    finding_not_saysUndetermined, outcomeLines_saysUndetermined_iff,
    gapLines_saysUndetermined_iff, skippedLine_not_saysUndetermined, and_assoc]
  simp only [List.eq_nil_iff_forall_not_mem, imp_false]

/-! ## The text and the exit status -/

/-- An outcome is clean exactly when nothing was over or under retrieved. -/
theorem outcomeOf_eq_clean_iff (overRetrieved underRetrieved : Finset String) :
    outcomeOf overRetrieved underRetrieved = .clean ↔
      overRetrieved = ∅ ∧ underRetrieved = ∅ := by
  unfold outcomeOf
  by_cases hover : overRetrieved = ∅
  · by_cases hunder : underRetrieved = ∅
    · simp [hover, hunder]
    · simp [hover, hunder]
  · by_cases hunder : underRetrieved = ∅
    · simp [hover, hunder]
    · simp [hover, hunder]

/-- In a report that {lit}`verify` made, nothing but undetermined returns is printed exactly when
the exit status is zero. -/
theorem body_clean_iff_exitStatus {scenario : Scenario} {variant : Variant}
    {retrieve : Option Retrieve} {site : String} {report : VerificationReport}
    (hverify : verify scenario variant retrieve site = .ok report) (repr : String → String) :
    (∀ line ∈ bodyLines repr report, SaysUndetermined line) ↔ exitStatus report = 0 := by
  rcases (verify_eq_ok_iff _ _ _ _ _).mp hverify with ⟨-, hrun, -, hflag, -⟩
  rcases (runProbes_eq_ok_iff _ _ _ _ _).mp hrun with ⟨enforce, -, -, hprobes, -⟩
  have houtcome : ∀ p ∈ report.probes, p.outcome = .clean ↔ p.verdict ≠ .contradicted := by
    intro p hp
    rw [hprobes] at hp
    rcases List.mem_map.mp hp with ⟨q, -, rfl⟩
    rw [verdict_ne_contradicted_iff]
    exact outcomeOf_eq_clean_iff _ _
  have hpartial : report.isPartial = false ↔
      (∀ p ∈ report.probes, p.absentFromIndex = ∅) ∧ report.probesSkipped = [] := by
    rw [hflag, Bool.or_eq_false_iff, Bool.not_eq_false', List.isEmpty_iff, List.any_eq_false,
      and_comm]
    simp only [decide_eq_true_eq, not_not]
  rw [body_clean_iff, exitStatus_eq_zero_iff, hpartial, forall₂_congr houtcome]

theorem siteMeaning_eq_none_iff (site : String) :
    siteMeanings.lookup site = none ↔ site ∉ enforcementSites := by
  rw [List.lookup_eq_none_iff, enforcementSites, List.mem_map, not_exists]
  simp only [bne_iff_ne, not_and, ne_comm]

/-- A report that {lit}`verify` made is printed to its end exactly when its enforcement site means
something, and then the lines after the first two are all about undetermined returns exactly when
the exit status is zero. -/
theorem printed_iff_exitStatus {scenario : Scenario} {variant : Variant}
    {retrieve : Option Retrieve} {site : String} {report : VerificationReport}
    (hverify : verify scenario variant retrieve site = .ok report) (repr : String → String)
    (title : String) :
    ((printReport repr report title).raised = none ↔ site ∈ enforcementSites) ∧
      (site ∈ enforcementSites →
        ((∀ line ∈ (printReport repr report title).lines.drop 2, SaysUndetermined line) ↔
          exitStatus report = 0)) := by
  have hsite : report.enforcementSite = site :=
    ((verify_eq_ok_iff _ _ _ _ _).mp hverify).2.2.2.2
  have hknown := siteMeaning_eq_none_iff site
  rw [printReport, hsite]
  cases hmeaning : siteMeanings.lookup site with
  | none =>
      have hunknown := hknown.mp hmeaning
      exact ⟨by simp [hunknown], fun h => absurd h hunknown⟩
  | some meaning =>
      have hmember : site ∈ enforcementSites := by
        by_contra hunknown
        rw [hknown.mpr hunknown] at hmeaning
        cases hmeaning
      refine ⟨by simp [hmember], fun _ => ?_⟩
      dsimp only
      rw [List.drop_succ_cons, List.drop_succ_cons, List.drop_zero]
      exact body_clean_iff_exitStatus hverify repr

theorem printed_iff_exitStatus_unstated :
    (printReport id unstatedReport "unstated").raised = none ∧
      ((∀ line ∈ (printReport id unstatedReport "unstated").lines.drop 2,
          SaysUndetermined line) ↔ exitStatus unstatedReport = 0) := by
  have hprinted := printed_iff_exitStatus
    (by decide +kernel : verify unstated unstatedIndex none "simulated" = .ok unstatedReport)
    id "unstated"
  have hsite : "simulated" ∈ enforcementSites := by decide
  exact ⟨hprinted.1.mpr hsite, hprinted.2 hsite⟩

end Tearline
