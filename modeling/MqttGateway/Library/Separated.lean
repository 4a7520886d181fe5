import Mathlib.Data.List.DropRight
import Mathlib.Data.List.Nodup
import Mathlib.Tactic.Common

/-!
# Separated lists

A text that lists entries, with a separator between two of them, blanks around them and
empty places left out.  Reading is the inverse of writing on the lists whose entries
can stand in a text, and every list that has been read is one of them.

Main results:

- Theorem {lit}`entry_of_mem_entries`: what has been read can stand in a text.
- Theorem {lit}`entries_join`: what has been written is read.
- Theorem {lit}`distinctEntries_join`: the same without repetitions.
-/

namespace Toolkit
namespace Separated

universe u

variable {α : Type u} [DecidableEq α] (sep : α) (blank : α → Bool)

/-- A list without the blanks at its ends. -/
def trim (xs : List α) : List α :=
  (xs.dropWhile blank).rdropWhile blank

/-- The entries of a text. -/
def entries (text : List α) : List (List α) :=
  ((text.splitOn sep).map (trim blank)).filter fun entry => entry ≠ []

/-- The entries of a text, without repetitions. -/
def distinctEntries (text : List α) : List (List α) :=
  (entries sep blank text).eraseDups

/-- The text of a list of entries. -/
def join (xs : List (List α)) : List α :=
  [sep].intercalate xs

/-- A list that can stand in a text. -/
structure Entry (xs : List α) : Prop where
  nonempty : xs ≠ []
  trimmed : trim blank xs = xs
  unseparated : sep ∉ xs

variable {sep : α} {blank : α → Bool}

/-! ## Blanks and separators -/

omit [DecidableEq α] in
/-- Trimming leaves the characters in their order. -/
theorem trim_sublist (xs : List α) : (trim blank xs).Sublist xs := by
  have hright := (List.rdropWhile_prefix blank (xs.dropWhile blank)).sublist
  exact hright.trans (List.dropWhile_sublist blank)

omit [DecidableEq α] in
/-- A trimmed list has no blank at its ends. -/
theorem trim_trim (xs : List α) : trim blank (trim blank xs) = trim blank xs := by
  have hfirst : (trim blank xs).dropWhile blank = trim blank xs := by
    have hprefix : trim blank xs <+: xs.dropWhile blank := List.rdropWhile_prefix blank _
    have hhead := List.head?_dropWhile_not blank xs
    cases htrim : trim blank xs with
    | nil => rfl
    | cons c rest =>
        rw [htrim] at hprefix
        rcases hprefix with ⟨tail, htail⟩
        rw [← htail, List.cons_append, List.head?_cons] at hhead
        exact List.dropWhile_cons_of_neg (by simpa using hhead)
  have hlast := List.rdropWhile_idempotent blank (xs.dropWhile blank)
  rw [trim, hfirst]
  exact hlast

/-- No piece has the separator in it. -/
theorem not_mem_of_mem_splitOn {text piece : List α} (h : piece ∈ text.splitOn sep) :
    sep ∉ piece := by
  induction text generalizing piece with
  | nil =>
      have hpiece : piece = [] := by simpa using h
      simp [hpiece]
  | cons c text ih =>
      rw [List.splitOn_cons_eq_if_modifyHead] at h
      by_cases hc : c = sep
      · rw [if_pos (by simpa using hc)] at h
        rcases List.mem_cons.mp h with rfl | hmem
        · exact List.not_mem_nil
        · exact ih hmem
      · rw [if_neg (by simpa using hc)] at h
        cases hsplit : text.splitOn sep with
        | nil => exact absurd hsplit (List.splitOn_ne_nil sep text)
        | cons first rest =>
            rw [hsplit, List.modifyHead_cons] at h
            rw [hsplit] at ih
            rcases List.mem_cons.mp h with rfl | hmem
            · have hfirst := ih List.mem_cons_self
              simp [Ne.symm hc, hfirst]
            · exact ih (List.mem_cons_of_mem _ hmem)

/-! ## Reading and writing -/

/-- What has been read can stand in a text. -/
theorem entry_of_mem_entries {text entry : List α} (h : entry ∈ entries sep blank text) :
    Entry sep blank entry := by
  rw [entries, List.mem_filter, decide_eq_true_eq] at h
  rcases List.mem_map.mp h.1 with ⟨piece, hpiece, rfl⟩
  refine ⟨h.2, trim_trim piece, ?_⟩
  intro hmem
  exact not_mem_of_mem_splitOn hpiece ((trim_sublist piece).subset hmem)

/-- What has been written is read. -/
theorem entries_join {xs : List (List α)} (h : ∀ entry ∈ xs, Entry sep blank entry) :
    entries sep blank (join sep xs) = xs := by
  cases xs with
  | nil => rfl
  | cons first rest =>
      have hsplit : (join sep (first :: rest)).splitOn sep = first :: rest :=
        List.splitOn_intercalate sep (fun entry hmem => (h entry hmem).unseparated) (by simp)
      have htrim : (first :: rest).map (trim blank) = first :: rest := by
        have hsame := List.map_congr_left fun entry hmem => (h entry hmem).trimmed
        exact hsame.trans (List.map_id _)
      rw [entries, hsplit, htrim, List.filter_eq_self]
      intro entry hmem
      exact decide_eq_true (h entry hmem).nonempty

/-- Reading, writing and reading again is reading. -/
theorem entries_join_entries (text : List α) :
    entries sep blank (join sep (entries sep blank text)) = entries sep blank text :=
  entries_join fun _ hmem => entry_of_mem_entries hmem

/-! ## Repetitions -/

section Repetitions

variable {β : Type u} [BEq β] [LawfulBEq β]

/-- Without its repetitions a list repeats nothing. -/
theorem nodup_eraseDups (xs : List β) : xs.eraseDups.Nodup := by
  induction hn : xs.length using Nat.strongRecOn generalizing xs with
  | ind n ih =>
      cases xs with
      | nil => exact List.nodup_nil
      | cons x rest =>
          rw [List.eraseDups_cons, List.nodup_cons]
          refine ⟨?_, ?_⟩
          · rw [List.mem_eraseDups]
            simp
          · apply ih _ _ _ rfl
            have hle := List.length_filter_le (fun y => !y == x) rest
            rw [List.length_cons] at hn
            omega

/-- A list that repeats nothing stays as it is. -/
theorem eraseDups_of_nodup {xs : List β} (h : xs.Nodup) : xs.eraseDups = xs := by
  induction xs with
  | nil => rfl
  | cons x rest ih =>
      rw [List.nodup_cons] at h
      have hkept : (rest.filter fun y => !y == x) = rest := by
        rw [List.filter_eq_self]
        intro y hmem
        have hne : y ≠ x := fun heq => h.1 (heq ▸ hmem)
        simpa using hne
      rw [List.eraseDups_cons, hkept, ih h.2]

end Repetitions

/-- What has been read without repetitions can stand in a text. -/
theorem entry_of_mem_distinctEntries {text entry : List α}
    (h : entry ∈ distinctEntries sep blank text) : Entry sep blank entry :=
  entry_of_mem_entries (List.mem_eraseDups.mp h)

/-- What has been read without repetitions repeats nothing. -/
theorem nodup_distinctEntries (text : List α) : (distinctEntries sep blank text).Nodup :=
  nodup_eraseDups _

/-- What has been written without repetitions is read. -/
theorem distinctEntries_join {xs : List (List α)} (h : ∀ entry ∈ xs, Entry sep blank entry)
    (hnodup : xs.Nodup) : distinctEntries sep blank (join sep xs) = xs := by
  rw [distinctEntries, entries_join h, eraseDups_of_nodup hnodup]

/-- Reading, writing and reading again is reading. -/
theorem distinctEntries_join_distinctEntries (text : List α) :
    distinctEntries sep blank (join sep (distinctEntries sep blank text)) =
      distinctEntries sep blank text :=
  distinctEntries_join (fun _ hmem => entry_of_mem_distinctEntries hmem)
    (nodup_distinctEntries text)

end Separated
end Toolkit
