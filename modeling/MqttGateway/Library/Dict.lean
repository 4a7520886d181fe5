import Mathlib.Data.List.Nodup
import Mathlib.Tactic.Common

/-!
# Insertion-ordered dictionaries

A dictionary keeps its items in insertion order.  Assigning to a present key
replaces the value where it stands, assigning to an absent key appends, and
removing a key closes the gap.  Keys are distinct by construction, so a lookup
and the list of items say the same thing.

Main results:

- Theorem {lit}`mem_items_iff`: an item is listed exactly when looking up its key
  finds its value.
- Theorems {lit}`get?_set` and {lit}`get?_erase`: the two updates seen through
  lookups.
- Theorem {lit}`size_le_one_iff_of_get?`: a dictionary that holds a key has one
  item exactly when it holds no other key.
-/

namespace Toolkit

universe u v

/-- An insertion-ordered dictionary with distinct keys. -/
structure Dict (κ : Type u) (ν : Type v) where
  items : List (κ × ν)
  nodup : (items.map Prod.fst).Nodup

namespace Dict

variable {κ : Type u} {ν : Type v}

/-- The dictionary with no items. -/
def empty : Dict κ ν where
  items := []
  nodup := List.nodup_nil

/-- The keys, oldest first. -/
def keys (d : Dict κ ν) : List κ :=
  d.items.map Prod.fst

/-- The values in the order of their keys. -/
def values (d : Dict κ ν) : List ν :=
  d.items.map Prod.snd

/-- The number of items. -/
def size (d : Dict κ ν) : Nat :=
  d.items.length

instance : Membership κ (Dict κ ν) where
  mem d k := k ∈ d.keys

instance [DecidableEq κ] [DecidableEq ν] : DecidableEq (Dict κ ν) := fun d d' =>
  decidable_of_iff (d.items = d'.items)
    ⟨fun h => by
      cases d
      cases d'
      cases h
      rfl, fun h => congrArg Dict.items h⟩

/-- To be in a dictionary is to be one of its keys. -/
theorem mem_def {d : Dict κ ν} {k : κ} : k ∈ d ↔ k ∈ d.keys :=
  Iff.rfl

/-- Remove the oldest item, if there is one. -/
def popOldest (d : Dict κ ν) : Dict κ ν where
  items := d.items.tail
  nodup := by
    rw [List.map_tail]
    exact d.nodup.tail

section Lookup

variable [DecidableEq κ]

instance (d : Dict κ ν) (k : κ) : Decidable (k ∈ d) :=
  inferInstanceAs (Decidable (k ∈ d.keys))

/-- Look a key up. -/
def get? (d : Dict κ ν) (k : κ) : Option ν :=
  d.items.lookup k

/-- Replace the value of a present key, or append a new item. -/
def setItems (items : List (κ × ν)) (k : κ) (v : ν) : List (κ × ν) :=
  match items with
  | [] => [(k, v)]
  | (k', v') :: rest =>
      if k' = k then (k, v) :: rest else (k', v') :: setItems rest k v

/-- Setting a key adds it to the keys, if it is not one of them. -/
theorem mem_keys_setItems (items : List (κ × ν)) (k j : κ) (v : ν) :
    j ∈ (setItems items k v).map Prod.fst ↔ j = k ∨ j ∈ items.map Prod.fst := by
  induction items with
  | nil => simp [setItems]
  | cons item rest ih =>
      rcases item with ⟨k', v'⟩
      simp only [setItems]
      split
      · next h =>
          subst h
          simp
      · simp only [List.map_cons, List.mem_cons, ih]
        tauto

/-- Setting a key repeats none. -/
theorem nodup_setItems {items : List (κ × ν)} (k : κ) (v : ν)
    (h : (items.map Prod.fst).Nodup) : ((setItems items k v).map Prod.fst).Nodup := by
  induction items with
  | nil => simp [setItems]
  | cons item rest ih =>
      rcases item with ⟨k', v'⟩
      simp only [List.map_cons, List.nodup_cons] at h
      simp only [setItems]
      split
      · next hk =>
          subst hk
          simpa using h
      · next hk =>
          simp only [List.map_cons, List.nodup_cons, mem_keys_setItems]
          refine ⟨?_, ih h.2⟩
          rintro (rfl | hmem)
          · exact hk rfl
          · exact h.1 hmem

/-- Assign a value to a key. -/
def set (d : Dict κ ν) (k : κ) (v : ν) : Dict κ ν where
  items := setItems d.items k v
  nodup := nodup_setItems k v d.nodup

/-- Remove a key if it is present. -/
def erase (d : Dict κ ν) (k : κ) : Dict κ ν where
  items := d.items.filter fun item => item.1 ≠ k
  nodup := d.nodup.sublist (List.filter_sublist.map Prod.fst)

/-! ## Lookups and items -/

/-- Nothing is found in an empty dictionary. -/
@[simp]
theorem get?_empty (k : κ) : (empty : Dict κ ν).get? k = none :=
  rfl

/-- Where no key is repeated, an entry is found exactly if it is there. -/
theorem lookup_eq_some_iff_mem {items : List (κ × ν)} (h : (items.map Prod.fst).Nodup)
    {k : κ} {v : ν} : items.lookup k = some v ↔ (k, v) ∈ items := by
  induction items with
  | nil => simp
  | cons item rest ih =>
      rcases item with ⟨k', v'⟩
      simp only [List.map_cons, List.nodup_cons] at h
      by_cases hk : k = k'
      · subst hk
        have hrest : (k, v) ∉ rest := fun hmem => h.1 (List.mem_map_of_mem hmem)
        simp [hrest, eq_comm]
      · have hbeq : (k == k') = false := by simpa using hk
        simp [List.lookup_cons, hbeq, hk, ih h.2]

/-- An item is listed exactly when looking up its key finds its value. -/
theorem mem_items_iff {d : Dict κ ν} {k : κ} {v : ν} :
    (k, v) ∈ d.items ↔ d.get? k = some v :=
  (lookup_eq_some_iff_mem d.nodup).symm

/-- A key is in a dictionary exactly if something is found for it. -/
theorem mem_iff_get? {d : Dict κ ν} {k : κ} : k ∈ d ↔ ∃ v, d.get? k = some v := by
  simp only [mem_def, keys, List.mem_map, Prod.exists, exists_and_right, exists_eq_right,
    mem_items_iff]

/-- A key is not in a dictionary exactly if nothing is found for it. -/
theorem not_mem_iff_get? {d : Dict κ ν} {k : κ} : k ∉ d ↔ d.get? k = none := by
  rw [mem_iff_get?, Option.eq_none_iff_forall_ne_some]
  simp

/-- The values are what is found for the keys. -/
theorem mem_values_iff {d : Dict κ ν} {v : ν} : v ∈ d.values ↔ ∃ k, d.get? k = some v := by
  simp only [values, List.mem_map, Prod.exists, exists_eq_right, mem_items_iff]

/-! ## Updates -/

/-- After setting a key, its new value is found, and the other entries as before. -/
theorem lookup_setItems (items : List (κ × ν)) (k j : κ) (v : ν) :
    (setItems items k v).lookup j = if j = k then some v else items.lookup j := by
  induction items with
  | nil =>
      by_cases hj : j = k
      · simp [setItems, hj]
      · have hbeq : (j == k) = false := by simpa using hj
        simp [setItems, List.lookup_cons, hbeq, hj]
  | cons item rest ih =>
      rcases item with ⟨k', v'⟩
      simp only [setItems]
      split
      · next hk =>
          subst hk
          by_cases hj : j = k'
          · simp [hj]
          · have hbeq : (j == k') = false := by simpa using hj
            simp [List.lookup_cons, hbeq, hj]
      · next hk =>
          by_cases hj : j = k'
          · subst hj
            simp [hk]
          · have hbeq : (j == k') = false := by simpa using hj
            simp [List.lookup_cons, hbeq, ih]

/-- What is found after setting a key. -/
@[simp]
theorem get?_set (d : Dict κ ν) (k j : κ) (v : ν) :
    (d.set k v).get? j = if j = k then some v else d.get? j :=
  lookup_setItems d.items k j v

/-- What is found after erasing a key. -/
@[simp]
theorem get?_erase (d : Dict κ ν) (k j : κ) :
    (d.erase k).get? j = if j = k then none else d.get? j := by
  apply Option.ext
  intro v
  rw [← mem_items_iff]
  by_cases hj : j = k
  · simp [erase, hj]
  · simp [erase, hj, mem_items_iff]

/-- The keys after setting one. -/
@[simp]
theorem mem_set {d : Dict κ ν} {k j : κ} {v : ν} : j ∈ d.set k v ↔ j = k ∨ j ∈ d := by
  simp only [mem_iff_get?, get?_set]
  by_cases hj : j = k <;> simp [hj]

/-- The keys after erasing one. -/
@[simp]
theorem mem_erase {d : Dict κ ν} {k j : κ} : j ∈ d.erase k ↔ j ≠ k ∧ j ∈ d := by
  simp only [mem_iff_get?, get?_erase]
  by_cases hj : j = k <;> simp [hj]

/-! ## Order -/

omit [DecidableEq κ] in
/-- An empty dictionary has no keys. -/
@[simp]
theorem keys_empty : (empty : Dict κ ν).keys = [] :=
  rfl

omit [DecidableEq κ] in
/-- A dictionary has as many keys as entries. -/
theorem length_keys (d : Dict κ ν) : d.keys.length = d.size :=
  List.length_map _

omit [DecidableEq κ] in
/-- Without its oldest entry, a dictionary has lost its first key. -/
theorem keys_popOldest (d : Dict κ ν) : d.popOldest.keys = d.keys.tail :=
  List.map_tail

/-- What is found without the oldest entry was found with it. -/
theorem get?_of_popOldest {d : Dict κ ν} {k : κ} {v : ν} (h : d.popOldest.get? k = some v) :
    d.get? k = some v :=
  mem_items_iff.mp (List.mem_of_mem_tail (mem_items_iff.mpr h))

/-- Erasing a key keeps the order of the others. -/
theorem keys_erase (d : Dict κ ν) (k : κ) : (d.erase k).keys = d.keys.filter (· ≠ k) := by
  rw [keys, keys, List.filter_map]
  rfl

/-- A new key goes to the end. -/
theorem keys_set_of_notMem {d : Dict κ ν} {k : κ} (h : k ∉ d) (v : ν) :
    (d.set k v).keys = d.keys ++ [k] := by
  have hitems : ∀ items : List (κ × ν), k ∉ items.map Prod.fst →
      (setItems items k v).map Prod.fst = items.map Prod.fst ++ [k] := by
    intro items hk
    induction items with
    | nil => rfl
    | cons item items ih =>
        rw [List.map_cons, List.mem_cons, not_or] at hk
        rw [setItems, if_neg (Ne.symm hk.1), List.map_cons, ih hk.2]
        rfl
  exact hitems d.items h

/-! ## Emptiness and size -/

/-- A dictionary is empty exactly if nothing is found in it. -/
theorem items_eq_nil_iff {d : Dict κ ν} : d.items = [] ↔ ∀ k, d.get? k = none := by
  constructor
  · intro h k
    simp [get?, h]
  · intro h
    apply List.eq_nil_iff_forall_not_mem.mpr
    rintro ⟨k, v⟩ hmem
    rw [mem_items_iff, h k] at hmem
    cases hmem

/-- A dictionary with one item holds no key but that item's. -/
theorem size_le_one_iff_of_get? {d : Dict κ ν} {k : κ} {v : ν} (hk : d.get? k = some v) :
    d.size ≤ 1 ↔ ∀ j, j ≠ k → d.get? j = none := by
  have hmem : (k, v) ∈ d.items := mem_items_iff.mpr hk
  constructor
  · intro hsize j hj
    obtain ⟨item, hitems⟩ : ∃ item, d.items = [item] := by
      apply List.length_eq_one_iff.mp
      have hpos := List.length_pos_of_mem hmem
      unfold size at hsize
      omega
    rw [hitems, List.mem_singleton] at hmem
    apply not_mem_iff_get?.mp
    simp [mem_def, keys, hitems, ← hmem, hj]
  · intro hnone
    have hkeys : ∀ j ∈ d.keys, j = k := by
      intro j hj
      by_contra hne
      exact not_mem_iff_get?.mpr (hnone j hne) hj
    have hlen : d.keys.length ≤ 1 := by
      match hd : d.keys with
      | [] => simp
      | [_] => simp
      | a :: b :: rest =>
          have hnd : d.keys.Nodup := d.nodup
          rw [hd] at hkeys hnd
          have ha := hkeys a (by simp)
          have hb := hkeys b (by simp)
          simp [ha, hb] at hnd
    simpa [keys, size] using hlen

end Lookup

end Dict

end Toolkit
