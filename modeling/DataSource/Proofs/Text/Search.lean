import DataSource.Text.Search
import Mathlib.Data.List.Basic

/-!
# Look-ups in a text that is given in parts

Where a character is found, and what a slice is, in a text that is written as a concatenation: a
bounded look-up sees only the part between its bounds (`find?_part`, `slice_part`), and in that part
the first occurrence of a character is the one with none before it (`firstIndex?_append_cons`), the
last one the one with none after it (`lastIndex?_append_cons`).
-/

namespace DataSource.Text

/-! ## One character -/

theorem isPrefixOf_singleton (c d : Char) (text : List Char) :
    [c].isPrefixOf (d :: text) = (c == d) := by
  simp [List.isPrefixOf]

theorem firstIndex?_of_not_mem {c : Char} {text : List Char} (h : c ∉ text) :
    firstIndex? [c] text = none := by
  induction text with
  | nil => rfl
  | cons d rest ih =>
    rw [List.mem_cons, not_or] at h
    rw [firstIndex?, isPrefixOf_singleton, if_neg (by simpa using h.1), ih h.2]
    rfl

theorem firstIndex?_append_cons {c : Char} {before : List Char} (after : List Char)
    (h : c ∉ before) : firstIndex? [c] (before ++ c :: after) = some before.length := by
  induction before with
  | nil => simp [firstIndex?]
  | cons d rest ih =>
    rw [List.mem_cons, not_or] at h
    rw [List.cons_append, firstIndex?, isPrefixOf_singleton, if_neg (by simpa using h.1), ih h.2]
    rfl

theorem lastIndex?_of_not_mem {c : Char} {text : List Char} (h : c ∉ text) :
    lastIndex? [c] text = none := by
  induction text with
  | nil => rfl
  | cons d rest ih =>
    rw [List.mem_cons, not_or] at h
    rw [lastIndex?, ih h.2]
    simp [isPrefixOf_singleton, h.1]

theorem lastIndex?_append_cons {c : Char} {after : List Char} (before : List Char)
    (h : c ∉ after) : lastIndex? [c] (before ++ c :: after) = some before.length := by
  induction before with
  | nil => simp [lastIndex?, lastIndex?_of_not_mem h]
  | cons d rest ih => rw [List.cons_append, lastIndex?, ih]; rfl

theorem exists_last_of_mem {c : Char} {text : List Char} (h : c ∈ text) :
    ∃ before after, text = before ++ c :: after ∧ c ∉ after := by
  obtain ⟨after, before, hrev, hafter⟩ := List.eq_append_cons_of_mem (List.mem_reverse.2 h)
  refine ⟨before.reverse, after.reverse, ?_, by simpa using hafter⟩
  rw [← List.reverse_reverse text, hrev]
  simp

theorem lt_length_of_lastIndex? {c : Char} {text : List Char} {i : Nat}
    (h : lastIndex? [c] text = some i) : i < text.length := by
  by_cases hc : c ∈ text
  · obtain ⟨before, after, rfl, hafter⟩ := exists_last_of_mem hc
    rw [lastIndex?_append_cons before hafter] at h
    cases h
    simp
  · rw [lastIndex?_of_not_mem hc] at h
    cases h

/-! ## Longer patterns -/

theorem exists_of_firstIndex? {pattern text : List Char} {i : Nat}
    (h : firstIndex? pattern text = some i) :
    ∃ before after, text = before ++ (pattern ++ after) ∧ before.length = i := by
  induction text generalizing i with
  | nil =>
    rw [firstIndex?] at h
    split at h
    · rename_i hpattern
      cases h
      exact ⟨[], [], by simpa using hpattern.symm, rfl⟩
    · cases h
  | cons c rest ih =>
    rw [firstIndex?] at h
    split at h
    · rename_i hbegins
      cases h
      obtain ⟨after, hafter⟩ := List.isPrefixOf_iff_prefix.1 hbegins
      exact ⟨[], after, hafter.symm, rfl⟩
    · obtain ⟨j, hj, rfl⟩ := Option.map_eq_some_iff.1 h
      obtain ⟨before, after, rfl, rfl⟩ := ih hj
      exact ⟨c :: before, after, rfl, rfl⟩

theorem exists_firstIndex?_le (before pattern after : List Char) :
    ∃ i ≤ before.length, firstIndex? pattern (before ++ (pattern ++ after)) = some i := by
  induction before with
  | nil =>
    refine ⟨0, Nat.le_refl 0, ?_⟩
    rcases htext : pattern ++ after with _ | ⟨c, rest⟩
    · have hpattern : pattern = [] := (List.append_eq_nil_iff.1 htext).1
      rw [hpattern]
      rfl
    · have hbegins : pattern.isPrefixOf (c :: rest) = true :=
        List.isPrefixOf_iff_prefix.2 ⟨after, htext⟩
      rw [List.nil_append, firstIndex?, if_pos hbegins]
  | cons c before ih =>
    obtain ⟨i, hle, hi⟩ := ih
    rw [List.cons_append, firstIndex?]
    split
    · exact ⟨0, Nat.zero_le _, rfl⟩
    · exact ⟨i + 1, Nat.succ_le_succ hle, by rw [hi]; rfl⟩

/-! ## Bounds between parts -/

theorem clamp_of_le {size n : Nat} {bound : Int} (hbound : bound = n) (hle : n ≤ size) :
    clamp size bound = n := by
  subst hbound
  rw [clamp, if_neg (by omega), Int.toNat_natCast, Nat.min_eq_left hle]

section

variable {text part : List Char} {start stop : Int} (first rest : List Char)

theorem slice_part (htext : text = first ++ part ++ rest) (hstart : start = first.length)
    (hstop : stop = (first.length : Int) + part.length) : slice text start stop = part := by
  have hclampStart : clamp text.length start = first.length :=
    clamp_of_le hstart (by simp [htext])
  have hclampStop : clamp text.length stop = (first ++ part).length :=
    clamp_of_le (by rw [List.length_append, hstop]; rfl) (by simp [htext])
  rw [slice, hclampStart, hclampStop, htext, List.take_left, List.drop_left]

/-- A bounded look-up sees the part between its bounds. -/
theorem find?_part (htext : text = first ++ part ++ rest) (hstart : start = first.length)
    (hstop : stop = (first.length : Int) + part.length) (pattern : List Char) :
    find? text pattern start (some stop) = (firstIndex? pattern part).map (first.length + ·) := by
  have hclampStop : clamp text.length stop = (first ++ part).length :=
    clamp_of_le (by rw [List.length_append, hstop]; rfl) (by simp [htext])
  simp only [find?, Option.map_some, Option.getD_some, hclampStop, hstart, Int.toNat_natCast]
  rw [if_pos (by simp), htext, List.take_left, List.drop_left]

theorem find?_rest (htext : text = first ++ rest) (hstart : start = first.length)
    (pattern : List Char) :
    find? text pattern start = (firstIndex? pattern rest).map (first.length + ·) := by
  subst htext hstart
  simp only [find?, Option.map_none, Option.getD_none, Int.toNat_natCast]
  rw [if_pos (by simp), List.take_length, List.drop_left]

end

theorem find?_zero (text pattern : List Char) : find? text pattern 0 = firstIndex? pattern text := by
  have h := find?_rest [] text rfl rfl pattern
  simpa using h

theorem findLast?_none (text pattern : List Char) :
    findLast? text pattern = lastIndex? pattern text := by
  simp [findLast?]

theorem findLast?_some (text pattern : List Char) (stop : Nat) :
    findLast? text pattern (some (stop : Int)) = lastIndex? pattern (text.take stop) := by
  simp [findLast?]

end DataSource.Text
