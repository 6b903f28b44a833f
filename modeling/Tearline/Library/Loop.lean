import Mathlib.Data.List.Forall2
import Mathlib.Data.List.ReduceOption
import Mathlib.Tactic.Common

/-!
# Loops that accumulate and loops that can fail

Three shapes of loop recur in imperative code: a loop that adds to a collection
the items meeting a test, a loop that appends one result for each item, and a
loop whose body can fail.  Each has one rule here, so that a proof about a loop
only has to look at its body.

Main results:

- Theorem {lit}`Loop.foldl_collects`: what a collecting loop has gathered at the
  end, from what one step gathers.
- Theorem {lit}`Loop.foldl_append_length`: a loop that numbers its results by how
  many it already has.
- Theorem {lit}`Loop.foldlM_eq_ok_iff`: a loop whose body fails independently of
  the accumulator succeeds exactly when every item does.
- Theorem {lit}`Loop.foldlM_follows`: a loop that follows another turn by turn.
-/

namespace Loop

variable {σ τ α β ε : Type}

/-! ## Sequencing computations that can fail -/

/-- A sequenced computation succeeds exactly when both of its steps do. -/
@[simp]
theorem bind_eq_ok {x : Except ε α} {f : α → Except ε β} {b : β} :
    (x >>= f) = .ok b ↔ ∃ a, x = .ok a ∧ f a = .ok b := by
  cases x with
  | error e => simp [bind, Except.bind]
  | ok a => simp [bind, Except.bind]

/-- Returning a value succeeds with that value. -/
@[simp]
theorem pure_eq_ok {a b : α} : (pure a : Except ε α) = .ok b ↔ a = b := by
  simp [pure, Except.pure]

/-- A sequenced computation fails exactly when its first step does, or the second does on the
result of the first. -/
theorem bind_eq_error {x : Except ε α} {f : α → Except ε β} {e : ε} :
    (x >>= f) = .error e ↔ x = .error e ∨ ∃ a, x = .ok a ∧ f a = .error e := by
  cases x with
  | error e' => simp [bind, Except.bind]
  | ok a => simp [bind, Except.bind]

/-- Returning a value does not fail. -/
@[simp]
theorem pure_ne_error {a : α} {e : ε} : (pure a : Except ε α) ≠ .error e := by
  simp [pure, Except.pure]

/-- A sequenced computation completes exactly when its first step does with a result on which the
second does. -/
theorem bind_completes_iff {x : Except ε α} {f : α → Except ε β} :
    (∃ b, (x >>= f) = .ok b) ↔ ∃ a, x = .ok a ∧ ∃ b, f a = .ok b := by
  cases x with
  | error e => simp [bind, Except.bind]
  | ok a => simp [bind, Except.bind]

/-- A result that is kept as an option is there exactly when the computation completes. -/
theorem toOption_eq_some_iff {x : Except ε α} {a : α} : x.toOption = some a ↔ x = .ok a := by
  cases x with
  | error e => simp [Except.toOption]
  | ok b => simp [Except.toOption]

/-- Mapping over a result succeeds exactly when the result does. -/
@[simp]
theorem map_eq_ok {x : Except ε α} {f : α → β} {b : β} :
    x.map f = .ok b ↔ ∃ a, x = .ok a ∧ f a = b := by
  cases x with
  | error e => simp [Except.map]
  | ok a => simp [Except.map]

/-- Changing what a failure carries leaves success as it is. -/
theorem mapError_eq_ok {x : Except ε α} {f : ε → τ} {a : α} :
    x.mapError f = .ok a ↔ x = .ok a := by
  cases x with
  | error e => simp [Except.mapError]
  | ok b => simp [Except.mapError]

/-! ## Collecting loops -/

/-- If one step of a loop establishes a fact exactly when it held before or the
item adds it, the loop establishes it exactly when it held at the start or some
item adds it. -/
theorem foldl_collects (holds : σ → Prop) (adds : α → Prop) {step : σ → α → σ}
    (hstep : ∀ s a, holds (step s a) ↔ holds s ∨ adds a) (items : List α) (s : σ) :
    holds (items.foldl step s) ↔ holds s ∨ ∃ a ∈ items, adds a := by
  induction items generalizing s with
  | nil => simp
  | cons a items ih =>
      rw [List.foldl_cons, ih, hstep]
      simp [or_assoc]

/-! ## Appending loops -/

/-- A loop that appends a result for each item and numbers the item by how many
results it already has. -/
theorem foldl_append_length (f : Nat → α → β) (items : List α) (out : List β) :
    items.foldl (fun out a => out ++ [f out.length a]) out =
      out ++ items.mapIdx fun i a => f (out.length + i) a := by
  induction items generalizing out with
  | nil => simp
  | cons a items ih =>
      rw [List.foldl_cons, ih, List.mapIdx_cons, List.append_assoc, List.singleton_append]
      simp only [List.length_append, List.length_singleton, Nat.add_zero, Nat.add_assoc,
        Nat.add_comm 1]

/-- Results whose labels are those of some items in turn fall into one block for each item. -/
theorem exists_blocks {label : β → τ} {labels : α → List τ} {items : List α} {results : List β}
    (h : results.map label = items.flatMap labels) :
    ∃ blocks, results = blocks.flatten ∧
      List.Forall₂ (fun a block => block.map label = labels a) items blocks := by
  induction items generalizing results with
  | nil =>
      rw [List.flatMap_nil, List.map_eq_nil_iff] at h
      exact ⟨[], h, List.Forall₂.nil⟩
  | cons a items ih =>
      rw [List.flatMap_cons, List.map_eq_append_iff] at h
      rcases h with ⟨block, rest, rfl, hblock, hrest⟩
      rcases ih hrest with ⟨blocks, rfl, hblocks⟩
      exact ⟨block :: blocks, rfl, List.Forall₂.cons hblock hblocks⟩

/-! ## Loops that can fail -/

/-- In two lists related item by item, every item on the left has its partner. -/
theorem exists_right_of_mem {R : α → β → Prop} {items : List α} {values : List β}
    (h : List.Forall₂ R items values) {a : α} (ha : a ∈ items) : ∃ b ∈ values, R a b := by
  induction h with
  | nil => simp at ha
  | cons hhead _ ih =>
      rcases List.mem_cons.mp ha with rfl | ha
      · exact ⟨_, List.mem_cons_self, hhead⟩
      · rcases ih ha with ⟨b, hb, hab⟩
        exact ⟨b, List.mem_cons_of_mem _ hb, hab⟩

/-- In two lists related item by item, every item on the right has its partner. -/
theorem exists_left_of_mem {R : α → β → Prop} {items : List α} {values : List β}
    (h : List.Forall₂ R items values) {b : β} (hb : b ∈ values) : ∃ a ∈ items, R a b :=
  exists_right_of_mem h.flip hb

/-- In two lists whose partners have the same label, the labels are the same. -/
theorem map_eq_map_of_forall₂ {R : α → β → Prop} {f : α → τ} {g : β → τ} {items : List α}
    {values : List β} (h : List.Forall₂ R items values) (hR : ∀ a b, R a b → f a = g b) :
    items.map f = values.map g := by
  induction h with
  | nil => rfl
  | cons hhead _ ih => rw [List.map_cons, List.map_cons, hR _ _ hhead, ih]

/-- Where a relation between the partners in two lists comes down to a fact about the item on
the left, it holds of all of them exactly when the fact holds of all the items. -/
theorem forall₂_iff_forall {R S : α → β → Prop} {P : α → Prop} {items : List α}
    {values : List β} (h : List.Forall₂ R items values) (hS : ∀ a b, R a b → (S a b ↔ P a)) :
    List.Forall₂ S items values ↔ ∀ a ∈ items, P a := by
  induction h with
  | nil => simp
  | @cons a b items values hhead _ ih =>
      rw [List.forall₂_cons, List.forall_mem_cons, hS a b hhead, ih]

/-- The same for what may be there. -/
theorem optionRel_iff_forall {R S : α → β → Prop} {P : α → Prop} {x : Option α} {y : Option β}
    (h : Option.Rel R x y) (hS : ∀ a b, R a b → (S a b ↔ P a)) :
    Option.Rel S x y ↔ ∀ a, x = some a → P a := by
  cases h with
  | none => simp
  | @some a b hab => simp [hS a b hab]

/-- Related items whose partners are related in turn have lists of partners that are. -/
theorem forall₂_partners {γ δ : Type} {R : α → β → Prop} {P : α → γ → Prop} {Q : β → δ → Prop}
    {S : γ → δ → Prop} {as : List α} {bs : List β} {cs : List γ} {ds : List δ}
    (h : List.Forall₂ R as bs) (hP : List.Forall₂ P as cs) (hQ : List.Forall₂ Q bs ds)
    (hS : ∀ a b c d, R a b → P a c → Q b d → S c d) : List.Forall₂ S cs ds := by
  induction h generalizing cs ds with
  | nil =>
      cases hP
      cases hQ
      exact List.Forall₂.nil
  | cons hhead _ ih =>
      cases hP with
      | cons hPhead hPtail =>
          cases hQ with
          | cons hQhead hQtail =>
              exact List.Forall₂.cons (hS _ _ _ _ hhead hPhead hQhead) (ih hPtail hQtail)

/-- Item by item, partners for all the items make a related list. -/
theorem exists_forall₂ {R : α → β → Prop} {items : List α} (h : ∀ a ∈ items, ∃ b, R a b) :
    ∃ values, List.Forall₂ R items values := by
  induction items with
  | nil => exact ⟨[], List.Forall₂.nil⟩
  | cons a items ih =>
      rcases h a List.mem_cons_self with ⟨b, hb⟩
      rcases ih fun a ha => h a (List.mem_cons_of_mem _ ha) with ⟨values, hvalues⟩
      exact ⟨b :: values, List.Forall₂.cons hb hvalues⟩

/-- The results that are there belong to some of the items, in order. -/
theorem exists_sublist_reduceOption {R : α → Option β → Prop} {items : List α}
    {outcomes : List (Option β)} (h : List.Forall₂ R items outcomes) :
    ∃ kept, kept.Sublist items ∧
      List.Forall₂ (fun a b => R a (some b)) kept outcomes.reduceOption := by
  induction h with
  | nil => exact ⟨[], List.Sublist.slnil, List.Forall₂.nil⟩
  | @cons a outcome items outcomes hhead _ ih =>
      rcases ih with ⟨kept, hsublist, hkept⟩
      cases outcome with
      | none =>
          rw [List.reduceOption_cons_of_none]
          exact ⟨kept, hsublist.cons a, hkept⟩
      | some b =>
          rw [List.reduceOption_cons_of_some]
          exact ⟨a :: kept, hsublist.cons_cons a, List.Forall₂.cons hhead hkept⟩

/-- Of the items that meet a test, the labels. -/
theorem reduceOption_map_ite (p : α → Prop) [DecidablePred p] (label : α → β) (items : List α) :
    (items.map fun a => if p a then some (label a) else none).reduceOption =
      (items.filter fun a => decide (p a)).map label := by
  induction items with
  | nil => rfl
  | cons a items ih =>
      by_cases hp : p a
      · simp [hp, ih]
      · simp [hp, ih]

/-- A loop that computes something from each item completes when each of them does. -/
theorem mapM_eq_ok_iff {f : α → Except ε β} {items : List α} {values : List β} :
    items.mapM f = .ok values ↔ List.Forall₂ (fun a b => f a = .ok b) items values := by
  induction items generalizing values with
  | nil => rw [List.mapM_nil, pure_eq_ok, List.forall₂_nil_left_iff, eq_comm]
  | cons a items ih =>
      simp only [List.mapM_cons, bind_eq_ok, pure_eq_ok, ih]
      constructor
      · intro hresults
        rcases hresults with ⟨b, hb, rest, hrest, rfl⟩
        exact List.Forall₂.cons hb hrest
      · intro hall
        rcases List.forall₂_cons_left_iff.mp hall with ⟨b, rest, hb, hrest, rfl⟩
        exact ⟨b, hb, rest, hrest, rfl⟩

/-- So it does exactly when its body completes for every item. -/
theorem mapM_completes_iff {f : α → Except ε β} {items : List α} :
    (∃ values, items.mapM f = .ok values) ↔ ∀ a ∈ items, ∃ b, f a = .ok b := by
  simp only [mapM_eq_ok_iff]
  constructor
  · intro hvalues a ha
    rcases hvalues with ⟨values, hvalues⟩
    rcases exists_right_of_mem hvalues ha with ⟨b, -, hb⟩
    exact ⟨b, hb⟩
  · exact exists_forall₂

/-- A loop that computes something that may not be there from each item finds it for all of
them. -/
theorem mapM_eq_some_iff {f : α → Option β} {items : List α} {values : List β} :
    items.mapM f = some values ↔ List.Forall₂ (fun a b => f a = some b) items values := by
  induction items generalizing values with
  | nil => rw [List.mapM_nil, Option.pure_def, Option.some_inj, List.forall₂_nil_left_iff, eq_comm]
  | cons a items ih =>
      simp only [List.mapM_cons, Option.bind_eq_bind, Option.bind_eq_some_iff, Option.pure_def,
        Option.some_inj, ih]
      constructor
      · intro hresults
        rcases hresults with ⟨b, hb, rest, hrest, rfl⟩
        exact List.Forall₂.cons hb hrest
      · intro hall
        rcases List.forall₂_cons_left_iff.mp hall with ⟨b, rest, hb, hrest, rfl⟩
        exact ⟨b, hb, rest, hrest, rfl⟩

/-- A loop whose body computes something from the item alone, fails when that
fails, and then updates the accumulator. -/
theorem foldlM_eq_ok_iff (f : α → Except ε β) (update : σ → α → β → σ)
    (items : List α) (s out : σ) :
    items.foldlM (fun s a => (f a).map (update s a)) s = .ok out ↔
      ∃ values, List.Forall₂ (fun a b => f a = .ok b) items values ∧
        out = (items.zip values).foldl (fun s p => update s p.1 p.2) s := by
  induction items generalizing s with
  | nil => simp [pure, Except.pure, eq_comm]
  | cons a items ih =>
      simp only [List.foldlM_cons, bind_eq_ok, map_eq_ok, ih]
      constructor
      · intro hresults
        rcases hresults with ⟨_, ⟨b, hb, rfl⟩, values, hvalues, rfl⟩
        exact ⟨b :: values, List.Forall₂.cons hb hvalues, rfl⟩
      · intro hresults
        rcases hresults with ⟨_, hall, rfl⟩
        rcases List.forall₂_cons_left_iff.mp hall with ⟨b, values, hb, hvalues, rfl⟩
        exact ⟨_, ⟨b, hb, rfl⟩, values, hvalues, rfl⟩

/-- A loop that updates the accumulator by what its body computes from each item is the loop that
computes these, and then the updates. -/
theorem foldlM_map_eq_map_mapM (f : α → Except ε β) (update : σ → β → σ) (items : List α)
    (s : σ) :
    items.foldlM (fun s a => (f a).map (update s)) s =
      (items.mapM f).map fun values => values.foldl update s := by
  induction items generalizing s with
  | nil => rfl
  | cons a items ih =>
      rw [List.foldlM_cons, List.mapM_cons]
      cases f a with
      | error e => rfl
      | ok b =>
          have hrest := ih (update s b)
          simp only [Except.map, bind, Except.bind] at hrest ⊢
          rw [hrest]
          cases items.mapM f with
          | error e => rfl
          | ok values => rfl

/-- Such a loop completes exactly when what it computes from each item does. -/
theorem foldlM_map_completes_iff {f : α → Except ε β} {update : σ → β → σ} {items : List α}
    {s : σ} :
    (∃ out, items.foldlM (fun s a => (f a).map (update s)) s = .ok out) ↔
      ∀ a ∈ items, ∃ b, f a = .ok b := by
  rw [← mapM_completes_iff]
  simp only [foldlM_map_eq_map_mapM, map_eq_ok]
  constructor
  · intro hrun
    rcases hrun with ⟨_, values, hvalues, -⟩
    exact ⟨values, hvalues⟩
  · intro hrun
    rcases hrun with ⟨values, hvalues⟩
    exact ⟨_, values, hvalues, rfl⟩

/-- If every turn of a loop that cannot fail is matched by a turn of another over an item with the
same place, keeping their accumulators related, the other loop completes as well. -/
theorem foldlM_follows {R : σ → τ → Prop} {Q : α → β → Prop} {f : σ → α → Except ε σ}
    {g : τ → β → τ} {items : List α} {values : List β} (hitems : List.Forall₂ Q items values)
    (hstep : ∀ a b s t, Q a b → R s t → ∃ s', f s a = .ok s' ∧ R s' (g t b)) {s : σ} {t : τ}
    (hrel : R s t) : ∃ s', items.foldlM f s = .ok s' ∧ R s' (values.foldl g t) := by
  induction hitems generalizing s t with
  | nil => exact ⟨s, rfl, hrel⟩
  | @cons a b items values hhead _ ih =>
      rcases hstep a b s t hhead hrel with ⟨s', hs', hrel'⟩
      rcases ih hrel' with ⟨out, hout, hlast⟩
      refine ⟨out, ?_, hlast⟩
      rw [List.foldlM_cons, bind_eq_ok]
      exact ⟨s', hs', hout⟩

/-- The same of two loops over the same items. -/
theorem foldlM_simulates_foldl {R : σ → τ → Prop} {f : σ → α → Except ε σ} {g : τ → α → τ}
    {items : List α}
    (hstep : ∀ a ∈ items, ∀ s t, R s t → ∃ s', f s a = .ok s' ∧ R s' (g t a))
    {s : σ} {t : τ} (hrel : R s t) :
    ∃ s', items.foldlM f s = .ok s' ∧ R s' (items.foldl g t) := by
  have hitems : List.Forall₂ (fun a b => a = b ∧ a ∈ items) items items :=
    List.forall₂_same.mpr fun a ha => ⟨rfl, ha⟩
  refine foldlM_follows hitems (fun a b s t hsame hrel => ?_) hrel
  rcases hsame with ⟨rfl, ha⟩
  exact hstep a ha s t hrel

end Loop
