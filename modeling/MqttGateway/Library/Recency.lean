import MqttGateway.Library.Bounded
import Mathlib.Data.List.Dedup

/-!
# The most recently used keys

A cache with room for a fixed number of keys that drops the key used least recently holds
the last distinct keys of everything that was ever asked for.  A count kept beside a
key as long as the key stays counts the latest occurrences with few other keys between.

Main results:

- Theorem {lit}`touch_recent`: a request to the cache of a history gives the cache of the
  longer history.
- Theorem {lit}`mem_recent_iff`: a key is present exactly when few enough keys came after it.
- Theorem {lit}`streak_concat_self`: the count of a key goes on while the key is present, and
  starts again when it has left.
-/

namespace Toolkit

universe u

variable {α : Type u} [DecidableEq α] {K : Nat}

/-! ## The cache -/

/-- The last distinct keys of a history, in the order of their last occurrences. -/
def recent (K : Nat) (xs : List α) : List α :=
  xs.dedup.rtake K

/-- A request to a cache of keys, oldest first.  A present key moves to the end; a new key is
appended after the oldest one has left a full cache. -/
def touch (K : Nat) (cache : List α) (a : α) : List α :=
  (if a ∉ cache ∧ K ≤ cache.length then cache.tail else cache.filter (· ≠ a)) ++ [a]

/-- Nothing is recent at the start. -/
@[simp]
theorem recent_nil : recent K ([] : List α) = [] := by
  simp [recent]

/-- A key that occurs last counts at its last occurrence. -/
theorem dedup_concat (xs : List α) (a : α) :
    (xs ++ [a]).dedup = xs.dedup.filter (· ≠ a) ++ [a] := by
  induction xs with
  | nil => simp
  | cons x xs ih =>
      rw [List.cons_append]
      by_cases hx : x ∈ xs
      · rw [List.dedup_cons_of_mem (List.mem_append_left _ hx), List.dedup_cons_of_mem hx, ih]
      · rw [List.dedup_cons_of_notMem hx]
        by_cases hxa : x = a
        · rw [List.dedup_cons_of_mem (by simp [hxa]), ih, hxa]
          simp
        · rw [List.dedup_cons_of_notMem (by simp [hx, hxa]), ih]
          simp [hxa]

/-- A key that does not occur cannot be filtered out. -/
theorem filter_ne_of_notMem {xs : List α} {a : α} (h : a ∉ xs) : xs.filter (· ≠ a) = xs := by
  rw [List.filter_eq_self]
  intro x hx
  rw [decide_eq_true_iff]
  rintro rfl
  exact h hx

/-- Without one of its keys, a list that repeats none is one shorter. -/
theorem length_filter_ne {xs : List α} {a : α} (hnodup : xs.Nodup) (ha : a ∈ xs) :
    (xs.filter (· ≠ a)).length + 1 = xs.length := by
  have herase : xs.erase a = xs.filter (· ≠ a) := by
    rw [hnodup.erase_eq_filter]
    exact List.filter_congr fun x _ => by simp [bne, beq_eq_decide]
  rw [← herase, List.length_erase_add_one ha]

omit [DecidableEq α] in
/-- What is kept of a list that ends in enough elements. -/
theorem rtake_append_of_length_eq {xs ys : List α} (h : ys.length = K) :
    (xs ++ ys).rtake K = ys := by
  rw [List.rtake, List.length_append, h, Nat.add_sub_cancel, List.drop_left]

/-- A request to the cache of a history gives the cache of the longer history. -/
theorem touch_recent (hK : 1 ≤ K) (xs : List α) (a : α) :
    touch K (recent K xs) a = recent K (xs ++ [a]) := by
  rcases Nat.exists_eq_add_of_le' hK with ⟨k, rfl⟩
  rw [touch, recent, recent, dedup_concat, List.rtake_concat_succ, List.append_cancel_right_eq]
  rcases rtake_suffix (k + 1) xs.dedup with ⟨gone, hsplit⟩
  have hlength := length_rtake (k + 1) xs.dedup
  have hnodup := xs.nodup_dedup
  rw [← hsplit, List.nodup_append'] at hnodup
  -- Either nothing has left the cache yet, or it is full.
  by_cases hshort : xs.dedup.length ≤ k + 1
  · rw [rtake_of_length_le hshort]
    by_cases hfull : a ∉ xs.dedup ∧ k + 1 ≤ xs.dedup.length
    · rw [if_pos hfull, filter_ne_of_notMem hfull.1, List.rtake, List.drop_one.symm]
      congr 1
      omega
    · rw [if_neg hfull, rtake_of_length_le]
      by_cases ha : a ∈ xs.dedup
      · have hless := length_filter_ne xs.nodup_dedup ha
        omega
      · have hroom : ¬k + 1 ≤ xs.dedup.length := fun h => hfull ⟨ha, h⟩
        have hle := List.length_filter_le (fun x => decide (x ≠ a)) xs.dedup
        omega
  · have hfull : (xs.dedup.rtake (k + 1)).length = k + 1 := by omega
    by_cases ha : a ∈ xs.dedup.rtake (k + 1)
    · have hgone : a ∉ gone := fun h => hnodup.2.2 h ha
      have hcount : ((xs.dedup.rtake (k + 1)).filter (· ≠ a)).length = k := by
        rw [← Nat.add_right_cancel_iff, length_filter_ne hnodup.2.1 ha, hfull]
      rw [if_neg fun h => h.1 ha]
      conv_rhs => rw [← hsplit, List.filter_append]
      rw [rtake_append_of_length_eq hcount]
    · rw [if_pos ⟨ha, hfull.ge⟩]
      conv_rhs => rw [← hsplit, List.filter_append, filter_ne_of_notMem ha]
      cases hkept : xs.dedup.rtake (k + 1) with
      | nil =>
          rw [hkept] at hfull
          cases hfull
      | cons first kept =>
          rw [hkept, List.length_cons, Nat.add_right_cancel_iff] at hfull
          rw [List.append_cons, rtake_append_of_length_eq hfull, List.tail_cons]

/-- A key is present exactly when fewer keys than there is room for came after it. -/
theorem mem_recent_iff {older newer : List α} {a : α} (ha : a ∉ newer) :
    a ∈ recent K (older ++ a :: newer) ↔ newer.dedup.length < K := by
  rcases List.suffix_union_right older (a :: newer).dedup with ⟨first, hsplit⟩
  rw [← List.dedup_append, List.dedup_cons_of_notMem ha] at hsplit
  have hnodup := (older ++ a :: newer).nodup_dedup
  rw [← hsplit] at hnodup
  rw [recent, ← hsplit, List.rtake, List.length_append, List.length_cons]
  constructor
  · intro hmem
    by_contra hmany
    have hskip : first.length + (newer.dedup.length + 1) - K =
        first.length + (newer.dedup.length - K + 1) := by
      omega
    rw [hskip, List.drop_length_add_append, List.drop_succ_cons] at hmem
    exact ha (List.mem_dedup.mp (List.mem_of_mem_drop hmem))
  · intro hfew
    rw [List.drop_append_of_le_length (by omega)]
    exact List.mem_append_right _ List.mem_cons_self

/-- What is recent has occurred. -/
theorem mem_of_mem_recent {xs : List α} {a : α} (h : a ∈ recent K xs) : a ∈ xs :=
  List.mem_dedup.mp ((rtake_suffix K xs.dedup).mem h)

/-! ## The counts -/

/-- The stretches of a history between the successive occurrences of a key. -/
def gaps (a : α) (xs : List α) : List (List α) :=
  (xs.splitOn a).tail.dropLast

/-- The number of the latest occurrences of a key such that between any two successive ones
fewer distinct keys occurred than there is room for. -/
def streak (K : Nat) (a : α) (xs : List α) : Nat :=
  ((gaps a xs).reverse.takeWhile fun gap => gap.dedup.length < K).length + 1

omit [DecidableEq α] in
/-- The last occurrence of a key. -/
theorem exists_last_occurrence {xs : List α} {a : α} (h : a ∈ xs) :
    ∃ older newer, xs = older ++ a :: newer ∧ a ∉ newer := by
  rcases List.eq_append_cons_of_mem (List.mem_reverse.mpr h) with ⟨newer, older, hsplit, hnewer⟩
  refine ⟨older.reverse, newer.reverse, ?_, by simpa using hnewer⟩
  rw [← List.reverse_reverse xs, hsplit]
  simp

/-- The gaps of a key lie before its last occurrence. -/
theorem gaps_of_last {older newer : List α} {a : α} (ha : a ∉ newer) :
    gaps a (older ++ a :: newer) = (older.splitOn a).tail := by
  rw [gaps, List.splitOn_append_cons_self, List.splitOn_eq_singleton ha,
    List.tail_append_of_ne_nil (List.splitOn_ne_nil a older), List.dropLast_concat]

/-- A new occurrence closes a stretch. -/
theorem gaps_concat_self {older newer : List α} {a : α} (ha : a ∉ newer) :
    gaps a (older ++ a :: newer ++ [a]) = gaps a (older ++ a :: newer) ++ [newer] := by
  rw [gaps_of_last ha, gaps_of_last List.not_mem_nil, List.splitOn_append_cons_self,
    List.splitOn_eq_singleton ha, List.tail_append_of_ne_nil (List.splitOn_ne_nil a older)]

/-- A key that does not occur has no gaps. -/
theorem gaps_of_notMem {xs : List α} {a : α} (ha : a ∉ xs) : gaps a xs = [] := by
  rw [gaps, List.splitOn_eq_singleton ha]
  rfl

/-- Another key leaves the stretches of a key as they are. -/
theorem gaps_concat_of_ne {a b : α} (hb : b ≠ a) (xs : List α) :
    gaps a (xs ++ [b]) = gaps a xs := by
  by_cases ha : a ∈ xs
  · rcases exists_last_occurrence ha with ⟨older, newer, rfl, hnewer⟩
    rw [List.append_assoc, List.cons_append, gaps_of_last hnewer, gaps_of_last]
    simp [hnewer, hb.symm]
  · rw [gaps_of_notMem ha, gaps_of_notMem]
    simp [ha, hb.symm]

/-- Another key does not change a streak. -/
theorem streak_concat_of_ne {a b : α} (hb : b ≠ a) (xs : List α) :
    streak K a (xs ++ [b]) = streak K a xs := by
  rw [streak, gaps_concat_of_ne hb, streak]

/-- The count of a key goes on while the key is present, and starts again when it has left. -/
theorem streak_concat_self (a : α) (xs : List α) :
    streak K a (xs ++ [a]) = if a ∈ recent K xs then streak K a xs + 1 else 1 := by
  by_cases ha : a ∈ xs
  · rcases exists_last_occurrence ha with ⟨older, newer, rfl, hnewer⟩
    rw [streak, gaps_concat_self hnewer, List.reverse_append, List.reverse_singleton,
      List.singleton_append, List.takeWhile_cons]
    by_cases hfew : newer.dedup.length < K
    · rw [if_pos ((mem_recent_iff hnewer).mpr hfew), if_pos (by simpa using hfew),
        List.length_cons, streak]
    · rw [if_neg fun h => hfew ((mem_recent_iff hnewer).mp h), if_neg (by simpa using hfew)]
      rfl
  · rw [if_neg fun h => ha (mem_of_mem_recent h), streak]
    have hsplit : gaps a (xs ++ [a]) = [] := by
      rw [gaps_of_last List.not_mem_nil, List.splitOn_eq_singleton ha]
      rfl
    rw [hsplit]
    rfl

end Toolkit
