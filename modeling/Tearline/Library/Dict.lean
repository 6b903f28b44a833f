import Mathlib.Data.List.AList
import Mathlib.Data.Finset.Card
import Mathlib.Data.List.Forall2
import Mathlib.Data.Option.Basic

/-!
# Insertion-ordered dictionaries

A dictionary is an association list with distinct keys, read in insertion
order.  Assigning to a key that is already present keeps its position and
replaces its value; assigning to a new key appends it.  A comprehension
`{key x: x for x in xs}` is the left fold of such assignments.

Main results:

- Theorem {lit}`Dict.get?_set`: lookup after one assignment.
- Theorem {lit}`Dict.mem_values_iff`: the values are exactly what lookup finds.
- Theorem {lit}`Dict.keyedBy_ofValues`: a comprehension files every value under
  its own key.
- Theorem {lit}`Dict.length_values_ofValues_eq_iff`: a comprehension keeps every
  value exactly when the keys are distinct.
-/

/-- A dictionary with distinct keys in insertion order. -/
abbrev Dict (κ ν : Type) := AList fun _ : κ => ν

namespace Dict

variable {κ ν : Type} [DecidableEq κ]

/-- The value filed under a key, when there is one. -/
def get? (d : Dict κ ν) (k : κ) : Option ν :=
  d.lookup k

/-- The values in insertion order. -/
def values (d : Dict κ ν) : List ν :=
  d.entries.map Sigma.snd

/-- Assign to a key: in place when it is present, at the end when it is new. -/
def set (d : Dict κ ν) (k : κ) (v : ν) : Dict κ ν :=
  d.replace k v ∪ AList.singleton k v

/-- Remove a key. -/
def del (d : Dict κ ν) (k : κ) : Dict κ ν :=
  d.erase k

/-- The comprehension filing each value of a list under its key. -/
def ofValues (key : ν → κ) (xs : List ν) : Dict κ ν :=
  xs.foldl (fun d x => d.set (key x) x) ∅

/-- The keys other than those listed, in insertion order. -/
def keysExcept (d : Dict κ ν) (ks : List κ) : List κ :=
  d.keys.filter fun k => decide (k ∉ ks)

/-- Every value is filed under the key it states. -/
def KeyedBy (key : ν → κ) (d : Dict κ ν) : Prop :=
  ∀ k v, d.get? k = some v → key v = k

/-! ## Lookup and values -/

@[simp]
theorem get?_empty (k : κ) : get? (∅ : Dict κ ν) k = none :=
  AList.lookup_empty k

theorem mem_entries_iff (d : Dict κ ν) (k : κ) (v : ν) :
    Sigma.mk k v ∈ d.entries ↔ d.get? k = some v := by
  exact (AList.mem_lookup_iff (s := d)).symm

/-- The values are exactly what lookup finds under some key. -/
theorem mem_values_iff (d : Dict κ ν) (v : ν) :
    v ∈ d.values ↔ ∃ k, d.get? k = some v := by
  constructor
  · intro hv
    rcases List.mem_map.mp hv with ⟨⟨k, w⟩, hmem, rfl⟩
    exact ⟨k, (d.mem_entries_iff k w).mp hmem⟩
  · intro hfound
    rcases hfound with ⟨k, hk⟩
    exact List.mem_map.mpr ⟨⟨k, v⟩, (d.mem_entries_iff k v).mpr hk, rfl⟩

theorem mem_values_of_get? {d : Dict κ ν} {k : κ} {v : ν} (h : d.get? k = some v) :
    v ∈ d.values :=
  (d.mem_values_iff v).mpr ⟨k, h⟩

/-- The keys are those under which something is found. -/
theorem mem_keys_iff (d : Dict κ ν) (k : κ) : k ∈ d.keys ↔ ∃ v, d.get? k = some v := by
  rw [← AList.mem_keys, ← AList.lookup_isSome, Option.isSome_iff_exists]
  rfl

/-- No other keys are left exactly when all are listed. -/
theorem keysExcept_eq_nil_iff (d : Dict κ ν) (ks : List κ) :
    d.keysExcept ks = [] ↔ ∀ k ∈ d.keys, k ∈ ks := by
  simp [keysExcept]

omit [DecidableEq κ] in
theorem length_values (d : Dict κ ν) : d.values.length = d.keys.length := by
  simp [values, AList.keys, List.keys]

/-- In a dictionary keyed by its values' own keys, a value is found under its key. -/
theorem KeyedBy.get?_of_mem {key : ν → κ} {d : Dict κ ν} (hkeyed : d.KeyedBy key)
    {v : ν} (hv : v ∈ d.values) : d.get? (key v) = some v := by
  rcases (d.mem_values_iff v).mp hv with ⟨k, hk⟩
  rw [hkeyed k v hk]
  exact hk

/-- A dictionary keyed by its values' own keys holds one value for each key. -/
theorem KeyedBy.eq_of_key_eq {key : ν → κ} {d : Dict κ ν} (hkeyed : d.KeyedBy key)
    {v w : ν} (hv : v ∈ d.values) (hw : w ∈ d.values) (h : key v = key w) : v = w := by
  have hfound := hkeyed.get?_of_mem hv
  rw [h, hkeyed.get?_of_mem hw] at hfound
  exact (Option.some.inj hfound).symm

/-- A dictionary keyed by its values' own keys lists the keys its values state. -/
theorem KeyedBy.map_values {key : ν → κ} {d : Dict κ ν} (hkeyed : d.KeyedBy key) :
    d.values.map key = d.keys := by
  rw [values, List.map_map]
  apply List.map_congr_left
  intro entry hentry
  exact hkeyed entry.1 entry.2 ((d.mem_entries_iff entry.1 entry.2).mp hentry)

/-- In a dictionary keyed by its values' own keys lookup is a search through the values. -/
theorem KeyedBy.get?_eq_find? {key : ν → κ} {d : Dict κ ν} (hkeyed : d.KeyedBy key) (k : κ) :
    d.get? k = d.values.find? fun v => decide (key v = k) := by
  cases hfound : d.values.find? fun v => decide (key v = k) with
  | none =>
      cases hget : d.get? k with
      | none => rfl
      | some v =>
          have htest := List.find?_eq_none.mp hfound v (mem_values_of_get? hget)
          exact absurd (hkeyed k v hget) (by simpa using htest)
  | some v =>
      have hkey : key v = k := by simpa using List.find?_some hfound
      rw [← hkey]
      exact hkeyed.get?_of_mem (List.mem_of_find?_eq_some hfound)

/-- What keeps the keys and is the same of the values in order is the same of what is found. -/
theorem KeyedBy.map_get?_congr {μ : Type} {key : ν → κ} {key' : μ → κ} {f : ν → μ}
    {d d' : Dict κ ν} (hd : d.KeyedBy key) (hd' : d'.KeyedBy key)
    (hf : ∀ v, key' (f v) = key v) (h : d.values.map f = d'.values.map f) (k : κ) :
    (d.get? k).map f = (d'.get? k).map f := by
  have hfind : ∀ values : List ν, (values.find? fun v => decide (key v = k)).map f =
      (values.map f).find? fun u => decide (key' u = k) := by
    intro values
    rw [List.find?_map]
    simp only [Function.comp_def, hf]
  rw [hd.get?_eq_find?, hd'.get?_eq_find?, hfind, hfind, h]

/-- Dictionaries in which every key finds the same hold the same values, in some order. -/
theorem values_perm {d d' : Dict κ ν} (h : ∀ k, d.get? k = d'.get? k) :
    d.values.Perm d'.values := by
  apply List.Perm.map
  apply List.lookup_ext d.nodupKeys d'.nodupKeys
  intro k v
  exact iff_of_eq (congrArg (fun found => v ∈ found) (h k))

/-! ## Removal -/

@[simp]
theorem get?_del_self (d : Dict κ ν) (k : κ) : (d.del k).get? k = none :=
  AList.lookup_erase k d

theorem get?_del_of_ne (d : Dict κ ν) {k j : κ} (h : j ≠ k) :
    (d.del k).get? j = d.get? j :=
  AList.lookup_erase_ne h

/-! ## Assignment -/

private theorem dlookup_kreplace (k j : κ) (v : ν) (l : List (Sigma fun _ : κ => ν)) :
    (l.kreplace k v).dlookup j =
      if j = k then (l.dlookup k).map (fun _ => v) else l.dlookup j := by
  induction l with
  | nil => simp [List.kreplace]
  | cons entry rest ih =>
      rcases entry with ⟨key, value⟩
      by_cases hkey : k = key
      · subst hkey
        have hhead : List.kreplace k v (⟨k, value⟩ :: rest) = ⟨k, v⟩ :: rest :=
          List.lookmap_cons_some _ _ (by simp)
        rw [hhead]
        by_cases hj : j = k
        · subst hj
          simp
        · rw [if_neg hj, List.dlookup_cons_ne _ _ hj, List.dlookup_cons_ne _ _ hj]
      · have htail : List.kreplace k v (⟨key, value⟩ :: rest) =
            ⟨key, value⟩ :: rest.kreplace k v :=
          List.lookmap_cons_none _ _ (by simp [hkey])
        rw [htail]
        by_cases hj : j = key
        · subst hj
          simp [Ne.symm hkey]
        · rw [List.dlookup_cons_ne _ _ hj, ih, List.dlookup_cons_ne _ _ hkey,
            List.dlookup_cons_ne _ _ hj]

/-- Looking up after one assignment. -/
theorem get?_set (d : Dict κ ν) (k j : κ) (v : ν) :
    (d.set k v).get? j = if j = k then some v else d.get? j := by
  have hreplace : (d.replace k v).lookup j =
      if j = k then (d.lookup k).map (fun _ => v) else d.lookup j :=
    dlookup_kreplace k j v d.entries
  by_cases hj : j ∈ d.replace k v
  · rw [get?, set, AList.lookup_union_left hj, hreplace]
    by_cases hjk : j = k
    · subst hjk
      obtain ⟨old, hold⟩ := Option.isSome_iff_exists.mp
        (AList.lookup_isSome.mpr (AList.mem_replace.mp hj))
      simp [hold]
    · simp [hjk, get?]
  · rw [get?, set, AList.lookup_union_right hj]
    by_cases hjk : j = k
    · subst hjk
      rw [if_pos rfl]
      exact List.dlookup_cons_eq (β := fun _ => ν) [] j v
    · rw [if_neg hjk, get?, AList.lookup_eq_none.mpr, eq_comm, AList.lookup_eq_none]
      · exact fun hmem => hj (AList.mem_replace.mpr hmem)
      · simpa [AList.mem_keys] using hjk

/-- Assigning in turn a value for each entry of a second dictionary: a key of the second has the
value made for it, and any other key what it had. -/
theorem get?_foldl_set (f : κ → ν → ν) (d source : Dict κ ν) (k : κ) :
    (source.entries.foldl (fun d entry => d.set entry.1 (f entry.1 entry.2)) d).get? k =
      ((source.get? k).map (f k)).or (d.get? k) := by
  rcases source with ⟨entries, hnodup⟩
  change _ = ((entries.dlookup k).map (f k)).or (d.get? k)
  induction entries generalizing d with
  | nil => simp
  | cons entry rest ih =>
      rcases entry with ⟨j, v⟩
      rw [List.nodupKeys_cons] at hnodup
      rw [List.foldl_cons, ih _ hnodup.2, get?_set]
      by_cases hk : k = j
      · subst hk
        rw [List.dlookup_eq_none.mpr hnodup.1, List.dlookup_cons_eq, if_pos rfl]
        rfl
      · rw [List.dlookup_cons_ne _ _ hk, if_neg hk]

private theorem kunion_singleton_of_notMem {k : κ} (v : ν)
    {l : List (Sigma fun _ : κ => ν)} (h : k ∉ l.keys) :
    l.kunion [⟨k, v⟩] = l ++ [⟨k, v⟩] := by
  induction l with
  | nil => rfl
  | cons entry rest ih =>
      rw [List.keys_cons, List.mem_cons, not_or] at h
      have hkeep : List.kerase entry.1 [(⟨k, v⟩ : Sigma fun _ : κ => ν)] = [⟨k, v⟩] :=
        List.kerase_of_notMem_keys (by simpa using Ne.symm h.1)
      rw [List.kunion_cons, hkeep, ih h.2, List.cons_append]

/-- Assigning to a new key appends the entry. -/
theorem values_set_of_get?_eq_none {d : Dict κ ν} {k : κ} (v : ν)
    (h : d.get? k = none) : (d.set k v).values = d.values ++ [v] := by
  have hfresh : k ∉ d.entries.keys := fun hmem =>
    AList.lookup_eq_none.mp h (AList.mem_keys.mpr hmem)
  have hsame : (d.replace k v).entries = d.entries := by
    refine List.kreplace_of_forall_not (β := fun _ => ν) k v ?_
    exact fun w hmem => hfresh (List.mem_keys_of_mem hmem)
  rw [values, set, AList.union_entries, hsame, AList.singleton_entries,
    kunion_singleton_of_notMem v hfresh, List.map_append]
  rfl

/-- Assignment adds its key to the keys and no other. -/
theorem mem_keys_set (d : Dict κ ν) (k j : κ) (v : ν) :
    j ∈ (d.set k v).keys ↔ j = k ∨ j ∈ d.keys := by
  rw [← AList.mem_keys, ← AList.mem_keys, set, AList.mem_union, AList.mem_replace]
  simp [AList.mem_keys, or_comm]

/-! ## Comprehensions -/

/-- The assignments of a comprehension continued from a dictionary already filled. -/
private def fill (key : ν → κ) (d : Dict κ ν) (xs : List ν) : Dict κ ν :=
  xs.foldl (fun d x => d.set (key x) x) d

/-- Filing a value under its own key keeps every value under its key. -/
theorem KeyedBy.set {key : ν → κ} {d : Dict κ ν} (hkeyed : d.KeyedBy key) (v : ν) :
    (d.set (key v) v).KeyedBy key := by
  intro k w hfound
  rw [get?_set] at hfound
  split at hfound
  · rename_i hk
    rw [← Option.some.inj hfound, hk]
  · exact hkeyed k w hfound

private theorem keyedBy_fill (key : ν → κ) (xs : List ν) (d : Dict κ ν)
    (hkeyed : d.KeyedBy key) : (fill key d xs).KeyedBy key := by
  induction xs generalizing d with
  | nil => exact hkeyed
  | cons x xs ih => exact ih (d.set (key x) x) (hkeyed.set x)

/-- A comprehension files every value under its own key. -/
theorem keyedBy_ofValues (key : ν → κ) (xs : List ν) : (ofValues key xs).KeyedBy key :=
  keyedBy_fill key xs ∅ fun k v hfound => by simp at hfound

private theorem mem_keys_fill (key : ν → κ) (xs : List ν) (d : Dict κ ν) (k : κ) :
    k ∈ (fill key d xs).keys ↔ k ∈ d.keys ∨ k ∈ xs.map key := by
  induction xs generalizing d with
  | nil => simp [fill]
  | cons x xs ih =>
      change k ∈ (fill key (d.set (key x) x) xs).keys ↔ _
      rw [ih, mem_keys_set, List.map_cons, List.mem_cons]
      tauto

/-- The keys of a comprehension are those of its values. -/
theorem mem_keys_ofValues (key : ν → κ) (xs : List ν) (k : κ) :
    k ∈ (ofValues key xs).keys ↔ k ∈ xs.map key := by
  simpa [fill, ofValues] using mem_keys_fill key xs ∅ k

private theorem values_fill_of_nodup (key : ν → κ) (xs : List ν) (d : Dict κ ν)
    (hnodup : (xs.map key).Nodup) (hfresh : ∀ x ∈ xs, d.get? (key x) = none) :
    (fill key d xs).values = d.values ++ xs := by
  induction xs generalizing d with
  | nil => simp [fill]
  | cons x xs ih =>
      rw [List.map_cons, List.nodup_cons] at hnodup
      have htail : ∀ y ∈ xs, (d.set (key x) x).get? (key y) = none := by
        intro y hy
        have hne : key y ≠ key x := fun h => hnodup.1 (List.mem_map.mpr ⟨y, hy, h⟩)
        rw [get?_set, if_neg hne]
        exact hfresh y (List.mem_cons_of_mem x hy)
      change (fill key (d.set (key x) x) xs).values = _
      rw [ih _ hnodup.2 htail, values_set_of_get?_eq_none x (hfresh x List.mem_cons_self),
        List.append_assoc]
      rfl

/-- With distinct keys a comprehension keeps the list as it is. -/
theorem values_ofValues_of_nodup {key : ν → κ} {xs : List ν} (hnodup : (xs.map key).Nodup) :
    (ofValues key xs).values = xs := by
  have hvalues := values_fill_of_nodup key xs ∅ hnodup fun x _ => get?_empty (key x)
  simpa [fill, ofValues, values] using hvalues

/-- A comprehension holds one entry for each distinct key. -/
theorem length_values_ofValues (key : ν → κ) (xs : List ν) :
    (ofValues key xs).values.length = (xs.map key).toFinset.card := by
  have hkeys : (ofValues key xs).keys.toFinset = (xs.map key).toFinset := by
    ext k
    rw [List.mem_toFinset, List.mem_toFinset, mem_keys_ofValues]
  rw [length_values, ← hkeys, List.toFinset_card_of_nodup (AList.keys_nodup _)]

/-- A comprehension keeps every value exactly when the keys are distinct. -/
theorem length_values_ofValues_eq_iff (key : ν → κ) (xs : List ν) :
    (ofValues key xs).values.length = xs.length ↔ (xs.map key).Nodup := by
  rw [length_values_ofValues]
  constructor
  · intro hcard
    refine Multiset.coe_nodup.mp (Multiset.toFinset_card_eq_card_iff_nodup.mp ?_)
    simpa using hcard
  · intro hnodup
    rw [List.toFinset_card_of_nodup hnodup, List.length_map]

/-- Looking up in a comprehension finds the last value with the key. -/
theorem get?_ofValues (key : ν → κ) (xs : List ν) (k : κ) :
    (ofValues key xs).get? k = xs.reverse.find? fun x => decide (key x = k) := by
  induction xs using List.reverseRecOn with
  | nil => simp [ofValues]
  | append_singleton xs x ih =>
      rw [ofValues, List.foldl_append, List.foldl_cons, List.foldl_nil, get?_set,
        List.reverse_append, List.reverse_singleton, List.singleton_append, List.find?_cons]
      by_cases hk : k = key x
      · simp [hk]
      · rw [if_neg hk]
        simp only [Ne.symm hk, decide_false]
        exact ih

/-- If listed values with the same key are the same, looking up in a comprehension finds exactly
the listed values. -/
theorem get?_ofValues_eq_some_iff_of_inj {key : ν → κ} {xs : List ν}
    (hinj : ∀ v ∈ xs, ∀ w ∈ xs, key v = key w → v = w) (k : κ) (v : ν) :
    (ofValues key xs).get? k = some v ↔ v ∈ xs ∧ key v = k := by
  have hlisted : ∀ w, (ofValues key xs).get? k = some w → w ∈ xs ∧ key w = k := by
    intro w hfound
    rw [get?_ofValues] at hfound
    have hkey := List.find?_some hfound
    exact ⟨List.mem_reverse.mp (List.mem_of_find?_eq_some hfound), of_decide_eq_true hkey⟩
  constructor
  · exact hlisted v
  · intro hv
    rcases hv with ⟨hv, rfl⟩
    cases hfound : (ofValues key xs).get? (key v) with
    | none =>
        rw [get?_ofValues, List.find?_eq_none] at hfound
        exact absurd (decide_eq_true rfl) (hfound v (List.mem_reverse.mpr hv))
    | some w =>
        rcases hlisted w hfound with ⟨hw, hkey⟩
        rw [hinj w hw v hv hkey]

/-- With distinct keys, looking up in a comprehension finds exactly the listed values. -/
theorem get?_ofValues_eq_some_iff {key : ν → κ} {xs : List ν} (hnodup : (xs.map key).Nodup)
    (k : κ) (v : ν) : (ofValues key xs).get? k = some v ↔ v ∈ xs ∧ key v = k :=
  get?_ofValues_eq_some_iff_of_inj (fun _ hv _ hw => List.inj_on_of_nodup_map hnodup hv hw) k v

/-- With distinct keys the order of the values does not matter to a lookup. -/
theorem get?_ofValues_perm {key : ν → κ} {xs ys : List ν} (hnodup : (xs.map key).Nodup)
    (hperm : xs.Perm ys) (k : κ) : (ofValues key xs).get? k = (ofValues key ys).get? k := by
  apply Option.ext
  intro v
  rw [get?_ofValues_eq_some_iff hnodup,
    get?_ofValues_eq_some_iff ((hperm.map key).nodup_iff.mp hnodup), hperm.mem_iff]

/-- In two lists related item by item, the first items that meet corresponding tests are
related, if there are any. -/
private theorem rel_find? {α β : Type} {R : α → β → Prop} {p : α → Bool} {q : β → Bool}
    {xs : List α} {ys : List β} (h : List.Forall₂ R xs ys) (hpq : ∀ x y, R x y → p x = q y) :
    Option.Rel R (xs.find? p) (ys.find? q) := by
  induction h with
  | nil => exact Option.Rel.none
  | @cons x y xs ys hhead _ ih =>
      rw [List.find?_cons, List.find?_cons, ← hpq x y hhead]
      cases p x with
      | false => exact ih
      | true => exact Option.Rel.some hhead

/-- What a comprehension over related items files under a key is related to the last item
labelled with it. -/
theorem rel_get?_ofValues {α : Type} {R : α → ν → Prop} {key : ν → κ} {label : α → κ}
    {items : List α} {values : List ν} (h : List.Forall₂ R items values)
    (hlabel : ∀ a v, R a v → label a = key v) (k : κ) :
    Option.Rel R (items.reverse.find? fun a => decide (label a = k))
      ((ofValues key values).get? k) := by
  rw [get?_ofValues]
  apply rel_find? (List.forall₂_reverse_iff.mpr h)
  intro a v hav
  rw [hlabel a v hav]

end Dict
