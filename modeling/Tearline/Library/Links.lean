import Mathlib.Data.Finset.Card
import Mathlib.Data.Set.Finite.Basic
import Mathlib.Logic.Relation

/-!
# Following links

Every node links to at most one other.  Following the links from a node either ends at a node
without a link or comes back to a node that was passed before; among finitely many nodes with a
link there is no third possibility.

Main results:

- Theorem {lit}`Links.Trail.nodup`: links that end pass no node twice.
- Theorem {lit}`Links.exists_trail_iff`: links end exactly when they lead to no cycle.
-/

namespace Links

variable {α : Type} {next : α → Option α}

/-- One link. -/
def Step (next : α → Option α) (a b : α) : Prop :=
  next a = some b

/-- The links from the node lead to a cycle. -/
def Revisits (next : α → Option α) (a : α) : Prop :=
  ∃ b, Relation.ReflTransGen (Step next) a b ∧ Relation.TransGen (Step next) b b

/-- The nodes passed from the node on, up to one without a link. -/
inductive Trail (next : α → Option α) : α → List α → Prop
  | last {a : α} (hlast : next a = none) : Trail next a [a]
  | link {a b : α} {nodes : List α} (hlink : next a = some b) (hrest : Trail next b nodes) :
      Trail next a (a :: nodes)

/-! ## Links that end -/

/-- There is one way to follow links. -/
theorem Trail.unique {a : α} {nodes others : List α} (h : Trail next a nodes)
    (h' : Trail next a others) : nodes = others := by
  induction h generalizing others with
  | last hlast =>
      cases h' with
      | last _ => rfl
      | link hlink _ => cases hlast.symm.trans hlink
  | link hlink _ ih =>
      cases h' with
      | last hlast => cases hlink.symm.trans hlast
      | link hlink' hrest' =>
          cases hlink.symm.trans hlink'
          rw [ih hrest']

/-- From every node passed on, the links pass an end of the nodes. -/
theorem Trail.exists_suffix {a b : α} {nodes : List α} (h : Trail next a nodes)
    (hb : b ∈ nodes) : ∃ rest, Trail next b rest ∧ rest <:+ nodes := by
  induction h with
  | last hlast =>
      rw [List.mem_singleton.mp hb]
      exact ⟨_, .last hlast, List.suffix_refl _⟩
  | @link a c nodes hlink hrest ih =>
      rcases List.mem_cons.mp hb with rfl | hb
      · exact ⟨_, .link hlink hrest, List.suffix_refl _⟩
      · rcases ih hb with ⟨rest, htrail, hsuffix⟩
        exact ⟨rest, htrail, hsuffix.trans (List.suffix_cons a nodes)⟩

/-- Links that end pass no node twice. -/
theorem Trail.nodup {a : α} {nodes : List α} (h : Trail next a nodes) : nodes.Nodup := by
  induction h with
  | last _ => exact List.nodup_singleton _
  | @link a b nodes hlink hrest ih =>
      apply List.Nodup.cons _ ih
      intro ha
      rcases hrest.exists_suffix ha with ⟨rest, htrail, hsuffix⟩
      have hlength := hsuffix.length_le
      rw [htrail.unique (.link hlink hrest), List.length_cons] at hlength
      exact Nat.not_succ_le_self _ hlength

/-! ## Cycles -/

/-- Where the links lead to a cycle, there is a link, and it leads to the cycle as well. -/
theorem Revisits.exists_link {a : α} (h : Revisits next a) :
    ∃ b, next a = some b ∧ Revisits next b := by
  rcases h with ⟨c, hreach, hcycle⟩
  rcases Relation.ReflTransGen.cases_head hreach with rfl | ⟨b, hlink, hrest⟩
  · rcases Relation.TransGen.head'_iff.mp hcycle with ⟨b, hlink, hrest⟩
    exact ⟨b, hlink, a, hrest, hcycle⟩
  · exact ⟨b, hlink, c, hrest, hcycle⟩

/-- A link to a node that leads to a cycle leads to it too. -/
theorem Revisits.of_link {a b : α} (hlink : next a = some b) (h : Revisits next b) :
    Revisits next a := by
  rcases h with ⟨c, hreach, hcycle⟩
  exact ⟨c, .head hlink hreach, hcycle⟩

/-- Links that end lead to no cycle. -/
theorem Trail.not_revisits {a : α} {nodes : List α} (h : Trail next a nodes) :
    ¬ Revisits next a := by
  induction h with
  | last hlast =>
      intro hcycle
      rcases hcycle.exists_link with ⟨b, hlink, -⟩
      cases hlast.symm.trans hlink
  | link hlink _ ih =>
      intro hcycle
      rcases hcycle.exists_link with ⟨b, hlink', hrest⟩
      cases hlink.symm.trans hlink'
      exact ih hrest

/-- Links that lead to no cycle end, if finitely many nodes reached have one: each node passed
is not among those still to come. -/
private theorem exists_trail_of_subset (linked : Finset α) {a : α} (h : ¬ Revisits next a)
    (hlinked : ∀ b c, Relation.ReflTransGen (Step next) a b → next b = some c → b ∈ linked) :
    ∃ nodes, Trail next a nodes := by
  classical
  induction linked using Finset.strongInduction generalizing a with
  | H linked ih =>
      cases hnext : next a with
      | none => exact ⟨_, .last hnext⟩
      | some b =>
          have ha := hlinked a b .refl hnext
          have hrest : ∀ c d, Relation.ReflTransGen (Step next) b c → next c = some d →
              c ∈ linked.erase a := by
            intro c d hreach hlink
            refine Finset.mem_erase.mpr ⟨?_, hlinked c d (.head hnext hreach) hlink⟩
            intro hca
            subst hca
            exact h ⟨c, .refl, .head' hnext hreach⟩
          rcases ih _ (Finset.erase_ssubset ha) (fun hcycle => h (hcycle.of_link hnext)) hrest
            with ⟨nodes, htrail⟩
          exact ⟨_, .link hnext htrail⟩

/-- Among finitely many nodes with a link, links end exactly when they lead to no cycle. -/
theorem exists_trail_iff (hfinite : {a | (next a).isSome}.Finite) (a : α) :
    (∃ nodes, Trail next a nodes) ↔ ¬ Revisits next a := by
  constructor
  · intro htrail
    rcases htrail with ⟨nodes, htrail⟩
    exact htrail.not_revisits
  · intro hcycle
    apply exists_trail_of_subset hfinite.toFinset hcycle
    intro b c _ hlink
    rw [Set.Finite.mem_toFinset]
    exact Option.isSome_iff_exists.mpr ⟨c, hlink⟩

end Links
