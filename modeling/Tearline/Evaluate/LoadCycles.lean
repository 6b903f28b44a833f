import Tearline.Evaluate.Load
import Tearline.Library.Links

/-!
# Expectation files that inherit from one another

Reading an expectation file goes on to the file it inherits from, without a look at those it
came from.  This module runs the same recursion with a record of the files it reads.

Main results:

- Theorem {lit}`loadTraced_fst`: without the record, the recursion is {lit}`Files.load`.
- Theorem {lit}`loadTraced_of_revisits`: in a cycle every further depth reads one file more.
- Theorem {lit}`endsReadingOnce_iff`: when reading ends and reads no file twice.
-/

namespace Tearline

namespace Evaluate

variable {Path : Type}

/-! ## Recording what is read -/

/-- `_load(path)`, with the paths whose text it reads, in order. -/
def Files.loadTraced (files : Files Path) : ℕ → Path → Except LoadFailure Mapping × List Path
  | 0, _ => (.error .recursionError, [])
  | depth + 1, path =>
      match files.text? path with
      | none => (.ok ∅, [])
      | some text =>
          match files.safeLoad? text with
          | none => (.error .yamlError, [path])
          | some document =>
              match popInherits (document.orElse (.dict [])) with
              | .error e => (.error e, [path])
              | .ok (parent, raw) =>
                  if parent.truthy then
                    let (inherited, reads) :=
                      files.loadTraced depth (files.resolve path (textOf files.render parent))
                    (inherited.map fun inherited => merge inherited raw, path :: reads)
                  else (.ok raw, [path])

/-- Without the record, the recursion is the one that is recorded. -/
theorem loadTraced_fst (files : Files Path) (depth : ℕ) (path : Path) :
    (files.loadTraced depth path).1 = files.load depth path := by
  induction depth generalizing path with
  | zero => rfl
  | succ depth ih =>
      rw [Files.loadTraced, Files.load]
      cases files.text? path with
      | none => rfl
      | some text =>
          dsimp only
          cases files.safeLoad? text with
          | none => rfl
          | some document =>
              dsimp only
              cases popInherits (document.orElse (.dict [])) with
              | error e => rfl
              | ok popped =>
                  simp only [bind, Except.bind]
                  by_cases hparent : popped.1.truthy = true
                  · rw [if_pos hparent, if_pos hparent, ← ih]
                    rfl
                  · rw [if_neg hparent, if_neg hparent]
                    rfl

/-! ## Links between files -/

/-- The files that are present. -/
def Files.present (files : Files Path) : Set Path :=
  {path | (files.text? path).isSome}

/-- The file that a file inherits from, if it is present and names one. -/
def Files.link? (files : Files Path) (path : Path) : Option Path := do
  let text ← files.text? path
  let document ← files.safeLoad? text
  match popInherits (document.orElse (.dict [])) with
  | .error _ => none
  | .ok (parent, _) =>
      if parent.truthy then some (files.resolve path (textOf files.render parent)) else none

variable {files : Files Path}

/-- A file with a link is present. -/
theorem mem_present_of_link {path parent : Path} (h : files.link? path = some parent) :
    path ∈ files.present := by
  rw [Files.link?] at h
  rcases Option.bind_eq_some_iff.mp h with ⟨text, htext, -⟩
  exact Option.isSome_iff_exists.mpr ⟨text, htext⟩

/-- A chain of files is linked from the first to the last, which has no link. -/
theorem Files.Chain.exists_trail {path : Path} {raws : List Mapping}
    (h : files.Chain path raws) :
    ∃ nodes, Links.Trail files.link? path nodes ∧ nodes.length = raws.length := by
  induction h with
  | @last path raw hstates hlast =>
      rcases hstates with ⟨text, document, entries, htext, hdocument, hentries, rfl⟩
      refine ⟨[path], .last ?_, rfl⟩
      simp [Files.link?, htext, hdocument, hentries, popInherits, hlast]
  | @link path raw raws hstates hlink _ ih =>
      rcases hstates with ⟨text, document, entries, htext, hdocument, hentries, rfl⟩
      rcases ih with ⟨nodes, htrail, hlength⟩
      refine ⟨path :: nodes, .link ?_ htrail, ?_⟩
      · simp [Files.link?, htext, hdocument, hentries, popInherits, hlink, Files.parent]
      · rw [List.length_cons, List.length_cons, hlength]

/-- Only running out of depth is a failure of the recursion itself. -/
theorem popInherits_ne_recursionError (v : Value) : popInherits v ≠ .error .recursionError := by
  cases v <;> simp [popInherits]

/-- One turn of the recursion: it reads at most the file and is done, or it reads the file, goes
on to the one the file inherits from and merges. -/
theorem loadTraced_succ_cases (files : Files Path) (path : Path) :
    (files.link? path = none ∧ ∃ outcome reads, outcome ≠ .error .recursionError ∧
        reads.Sublist [path] ∧ ∀ depth, files.loadTraced (depth + 1) path = (outcome, reads)) ∨
      ∃ parent raw, files.link? path = some parent ∧ ∀ depth,
        files.loadTraced (depth + 1) path =
          ((files.loadTraced depth parent).1.map fun inherited => merge inherited raw,
            path :: (files.loadTraced depth parent).2) := by
  simp only [Files.loadTraced, Files.link?]
  cases files.text? path with
  | none => exact Or.inl ⟨rfl, .ok ∅, [], by simp, List.nil_sublist _, fun _ => rfl⟩
  | some text =>
      simp only [Option.bind_eq_bind, Option.bind_some]
      cases files.safeLoad? text with
      | none => exact Or.inl ⟨rfl, .error .yamlError, [path], by simp, .refl _, fun _ => rfl⟩
      | some document =>
          simp only [Option.bind_some]
          have hpop := popInherits_ne_recursionError (document.orElse (.dict []))
          cases hpopped : popInherits (document.orElse (.dict [])) with
          | error e =>
              rw [hpopped] at hpop
              exact Or.inl ⟨rfl, .error e, [path], fun h => hpop (congrArg _ (Except.error.inj h)),
                .refl _, fun _ => rfl⟩
          | ok popped =>
              by_cases hparent : popped.1.truthy = true
              · simp only [hparent, if_true]
                exact Or.inr ⟨_, popped.2, rfl, fun _ => rfl⟩
              · simp only [hparent]
                exact Or.inl ⟨rfl, .ok popped.2, [path], by simp, .refl _, fun _ => rfl⟩

/-! ## When reading ends -/

/-- Merging what is read leaves a failure as it is. -/
private theorem map_ne_recursionError {outcome : Except LoadFailure Mapping}
    (f : Mapping → Mapping) (h : outcome ≠ .error .recursionError) :
    outcome.map f ≠ .error .recursionError := by
  cases outcome with
  | error e => exact h
  | ok inherited => simp [Except.map]

/-- Along links that end, at every depth that reaches their end, the same is read and the files
read are some of those passed. -/
theorem loadTraced_of_trail {path : Path} {nodes : List Path}
    (htrail : Links.Trail files.link? path nodes) :
    ∃ outcome reads, outcome ≠ .error .recursionError ∧ reads.Sublist nodes ∧
      ∀ depth, nodes.length ≤ depth → files.loadTraced depth path = (outcome, reads) := by
  induction htrail with
  | @last path hlast =>
      rcases loadTraced_succ_cases files path with
        ⟨-, outcome, reads, hends, hreads, hstep⟩ | ⟨parent, raw, hlink, -⟩
      · refine ⟨outcome, reads, hends, hreads, ?_⟩
        intro depth hdepth
        cases depth with
        | zero => simp at hdepth
        | succ depth => exact hstep depth
      · cases hlast.symm.trans hlink
  | @link path parent nodes hlink hrest ih =>
      rcases ih with ⟨outcome, reads, hends, hreads, hsteady⟩
      rcases loadTraced_succ_cases files path with ⟨hlast, -⟩ | ⟨other, raw, hlink', hstep⟩
      · cases hlast.symm.trans hlink
      · cases hlink.symm.trans hlink'
        refine ⟨outcome.map fun inherited => merge inherited raw, path :: reads,
          map_ne_recursionError _ hends, hreads.cons_cons path, ?_⟩
        intro depth hdepth
        cases depth with
        | zero => simp at hdepth
        | succ depth => rw [hstep, hsteady depth (Nat.le_of_succ_le_succ hdepth)]

/-- Where the links lead to a cycle the depth is used up, a file for each level. -/
theorem loadTraced_of_revisits {path : Path} (h : Links.Revisits files.link? path) (depth : ℕ) :
    (files.loadTraced depth path).1 = .error .recursionError ∧
      (files.loadTraced depth path).2.length = depth := by
  induction depth generalizing path with
  | zero => exact ⟨rfl, rfl⟩
  | succ depth ih =>
      rcases h.exists_link with ⟨parent, hlink, hrest⟩
      rcases loadTraced_succ_cases files path with ⟨hlast, -⟩ | ⟨other, raw, hlink', hstep⟩
      · cases hlast.symm.trans hlink
      · cases hlink.symm.trans hlink'
        rcases ih hrest with ⟨hfails, hlength⟩
        rw [hstep, hfails, List.length_cons, hlength]
        exact ⟨rfl, rfl⟩

/-- At every sufficient depth the same comes of reading the file, a mapping or a failure other
than of the recursion, and no file is read twice. -/
def Files.EndsReadingOnce (files : Files Path) (path : Path) : Prop :=
  ∃ outcome reads, (∃ bound, ∀ depth, bound ≤ depth →
      files.load depth path = outcome ∧ (files.loadTraced depth path).2 = reads) ∧
    outcome ≠ .error .recursionError ∧ reads.Nodup

/-- Reading does not end where the links lead to a cycle. -/
theorem not_endsReadingOnce_of_revisits {path : Path}
    (h : Links.Revisits files.link? path) : ¬ files.EndsReadingOnce path := by
  intro hends
  rcases hends with ⟨outcome, reads, ⟨bound, hsteady⟩, hends, -⟩
  have hfails := (loadTraced_of_revisits h bound).1
  rw [loadTraced_fst, (hsteady bound (Nat.le_refl bound)).1] at hfails
  exact hends hfails

/-- Among finitely many files, reading one ends and reads no file twice exactly when inheritance
does not lead from it to a cycle. -/
theorem endsReadingOnce_iff (hfinite : files.present.Finite) (path : Path) :
    files.EndsReadingOnce path ↔ ¬ Links.Revisits files.link? path := by
  constructor
  · intro hends hcycle
    exact not_endsReadingOnce_of_revisits hcycle hends
  · intro hcycle
    have hlinked : {path | (files.link? path).isSome}.Finite := by
      apply hfinite.subset
      intro path hpath
      rcases Option.isSome_iff_exists.mp hpath with ⟨parent, hlink⟩
      exact mem_present_of_link hlink
    rcases (Links.exists_trail_iff hlinked path).mpr hcycle with ⟨nodes, htrail⟩
    rcases loadTraced_of_trail htrail with ⟨outcome, reads, hends, hreads, hsteady⟩
    refine ⟨outcome, reads, ⟨nodes.length, ?_⟩, hends, htrail.nodup.sublist hreads⟩
    intro depth hdepth
    rw [← loadTraced_fst, hsteady depth hdepth]
    exact ⟨rfl, rfl⟩

theorem scenarioFiles_present_finite : scenarioFiles.present.Finite := by
  apply (Set.toFinite {"clean/expected-clean.yaml", "faulted/expected-clean.yaml",
    "faulted-naive/expected-clean.yaml"}).subset
  intro path hpath
  by_contra hother
  simp only [Set.mem_insert_iff, Set.mem_singleton_iff, not_or] at hother
  have hnone : scenarioFiles.text? path = none := by
    simp [scenarioFiles, hother]
  rw [Files.present, Set.mem_ofPred_eq, hnone] at hpath
  cases hpath

theorem endsReadingOnce_iff_extended :
    scenarioFiles.EndsReadingOnce "faulted-naive/expected-clean.yaml" := by
  rcases extended_chain.exists_trail with ⟨nodes, htrail, -⟩
  exact (endsReadingOnce_iff scenarioFiles_present_finite _).mpr htrail.not_revisits

/-! ## A file that names itself -/

/-- The text of such a file. -/
def selfNamedText : String :=
  "inherits: expected-clean.yaml"

/-- The one file of a variant, which names itself. -/
def selfNamedFiles : Files String where
  text? path := if path = "expected-clean.yaml" then some selfNamedText else none
  safeLoad? text :=
    if text = selfNamedText then some (.dict [(.str "inherits", .str "expected-clean.yaml")])
    else none
  resolve _ name := name
  render _ := ""

theorem selfNamed_revisits : Links.Revisits selfNamedFiles.link? "expected-clean.yaml" :=
  ⟨"expected-clean.yaml", .refl, .single rfl⟩

/-- It is read over and over until the depth is used up. -/
theorem selfNamed_never_ends :
    selfNamedFiles.present.Finite ∧
      (selfNamedFiles.loadTraced 3 "expected-clean.yaml").2 =
        List.replicate 3 "expected-clean.yaml" ∧
      ¬ selfNamedFiles.EndsReadingOnce "expected-clean.yaml" := by
  refine ⟨?_, rfl, not_endsReadingOnce_of_revisits selfNamed_revisits⟩
  apply (Set.finite_singleton "expected-clean.yaml").subset
  intro path hpath
  by_contra hother
  have hnone : selfNamedFiles.text? path = none := if_neg hother
  rw [Files.present, Set.mem_ofPred_eq, hnone] at hpath
  cases hpath

end Evaluate

end Tearline
