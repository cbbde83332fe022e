import DataSource.Proofs.Text.Occurrence
import Mathlib.Order.Bounds.Basic

/-!
# Look-ups between bounds

Both look-ups are exact for every text, pattern and bound (`lookups_within_bounds`): one answers the least
position at which the pattern stands between the bounds, the other the greatest one, and neither answers
where there is no such position. The pattern must fit between the bounds as a whole, so an empty pattern
still stands at the upper bound. A scan for one character answers the character with none in front of it
(`isFirst_find?`) or with none behind it (`isLast_findLast?`), and there is only one such position.
-/

namespace DataSource.Text

variable {pattern text : List Char}

/-! ## Standing between bounds -/

/-- The pattern stands at position `i` of the text, not before `low` and not beyond `high`. -/
structure StandsWithin (pattern text : List Char) (low high : Int) (i : Nat) : Prop where
  low_le : low ≤ i
  le_high : i + pattern.length ≤ high
  stands : (text.drop i).take pattern.length = pattern

/-- How far a look-up reaches: to its end, which is counted from the end of the text if it is negative and
then moved into the text, or through the whole text if it has none. -/
def reach (size : Nat) : Option Int → Int
  | none => size
  | some stop => max 0 (min size (if stop < 0 then size + stop else stop))

/-- How far a look-up from the back reaches: for it, a negative end is the beginning. -/
def backwardReach (size : Nat) : Option Int → Int
  | none => size
  | some stop => min (max stop 0) size

theorem reach_eq (size : Nat) (stop? : Option Int) :
    reach size stop? = ((stop?.map (clamp size)).getD size : Nat) := by
  cases stop? with
  | none => rfl
  | some stop =>
    simp only [reach, Option.map_some, Option.getD_some, clamp]
    split <;> omega

theorem reach_le (size : Nat) (stop? : Option Int) : reach size stop? ≤ size := by
  rw [reach_eq]
  cases stop? with
  | none => exact Int.le_refl size
  | some stop => exact Int.ofNat_le.2 (clamp_le size stop)

theorem backwardReach_eq (size : Nat) (stop? : Option Int) :
    backwardReach size stop? = (min (stop?.getD size).toNat size : Nat) := by
  cases stop? with
  | none => simp [backwardReach]
  | some stop =>
    simp only [backwardReach, Option.getD_some]
    omega

theorem occursAt_iff {i : Nat} :
    OccursAt pattern text i ↔
      i + pattern.length ≤ text.length ∧ (text.drop i).take pattern.length = pattern := by
  constructor
  · rintro ⟨before, after, rfl, rfl⟩
    refine ⟨by simp, ?_⟩
    rw [List.drop_left, List.take_left]
  · rintro ⟨hfits, hstands⟩
    refine ⟨text.take i, (text.drop i).drop pattern.length, ?_, List.length_take_of_le (by omega)⟩
    calc
      text = text.take i ++ text.drop i := (List.take_append_drop i text).symm
      _ = text.take i ++
          ((text.drop i).take pattern.length ++ (text.drop i).drop pattern.length) :=
        congrArg (text.take i ++ ·) (List.take_append_drop pattern.length (text.drop i)).symm
      _ = text.take i ++ (pattern ++ (text.drop i).drop pattern.length) := by rw [hstands]

/-- In the part of a text between two positions a pattern occurs where it stands between them. -/
theorem occursAt_part {start stop j : Nat} (hstart : start ≤ stop) (hstop : stop ≤ text.length) :
    OccursAt pattern ((text.take stop).drop start) j ↔
      StandsWithin pattern text start stop (start + j) := by
  have hlength : ((text.take stop).drop start).length = stop - start := by
    rw [List.length_drop, List.length_take_of_le hstop]
  rw [occursAt_iff, hlength, List.drop_drop, List.drop_take, List.take_take]
  constructor
  · rintro ⟨hfits, hstands⟩
    rw [Nat.min_eq_left (by omega)] at hstands
    exact ⟨by omega, by omega, hstands⟩
  · rintro ⟨-, hfits, hstands⟩
    rw [Nat.min_eq_left (by omega)]
    exact ⟨by omega, hstands⟩

/-! ## Look-ups -/

theorem standsWithin_bounds {low high : Int} {i : Nat} (h : StandsWithin pattern text low high i) :
    low ≤ i ∧ (i : Int) ≤ high ∧ low ≤ high := by
  obtain ⟨hlow, hhigh, -⟩ := h
  omega

/-- A look-up sees the part of the text between its bounds, and nothing if they cross. -/
theorem find?_cases (pattern text : List Char) (start : Int) (stop? : Option Int) :
    (reach text.length stop? < max start 0 ∧ find? text pattern start stop? = none) ∨
      ∃ first last : Nat, max start 0 = first ∧ reach text.length stop? = last ∧
        first ≤ last ∧ last ≤ text.length ∧
        find? text pattern start stop? =
          (firstIndex? pattern ((text.take last).drop first)).map (first + ·) := by
  have hreach := reach_eq text.length stop?
  have hlength : reach text.length stop? ≤ text.length := reach_le text.length stop?
  by_cases hle : start.toNat ≤ (stop?.map (clamp text.length)).getD text.length
  · exact .inr ⟨_, _, by omega, hreach, hle, by omega, if_pos hle⟩
  · exact .inl ⟨by omega, if_neg hle⟩

theorem isLeast_add_iff {P : Nat → Prop} {start i : Nat} (hstart : ∀ i, P i → start ≤ i) :
    IsLeast {i | P i} i ↔ ∃ j, (P (start + j) ∧ ∀ k < j, ¬P (start + k)) ∧ start + j = i := by
  constructor
  · rintro ⟨hi, hmin⟩
    have hadd : start + (i - start) = i := Nat.add_sub_of_le (hstart i hi)
    refine ⟨i - start, ⟨hadd.symm ▸ hi, fun k hk hstands => ?_⟩, hadd⟩
    have hle : i ≤ start + k := hmin hstands
    omega
  · rintro ⟨j, ⟨hj, hmin⟩, rfl⟩
    refine ⟨hj, fun i hi => Nat.not_lt.1 fun hlt => ?_⟩
    have hadd : start + (i - start) = i := Nat.add_sub_of_le (hstart i hi)
    exact hmin (i - start) (by omega) (hadd.symm ▸ hi)

theorem find?_eq_some_iff {start : Int} {stop? : Option Int} {i : Nat} :
    find? text pattern start stop? = some i ↔
      IsLeast {i | StandsWithin pattern text (max start 0) (reach text.length stop?) i} i := by
  rcases find?_cases pattern text start stop? with
    ⟨hcross, hfind⟩ | ⟨first, last, hfirst, hlast, hle, hlength, hfind⟩
  · rw [hfind]
    exact iff_of_false nofun fun h => absurd (standsWithin_bounds h.1).2.2 (Int.not_le.2 hcross)
  · rw [hfind, hfirst, hlast, Option.map_eq_some_iff, isLeast_add_iff fun i h => Int.ofNat_le.1 h.low_le]
    simp only [firstIndex?_eq_some_iff, occursAt_part hle hlength]

theorem find?_eq_none_iff {start : Int} {stop? : Option Int} :
    find? text pattern start stop? = none ↔
      ∀ i, ¬StandsWithin pattern text (max start 0) (reach text.length stop?) i := by
  rcases find?_cases pattern text start stop? with
    ⟨hcross, hfind⟩ | ⟨first, last, hfirst, hlast, hle, hlength, hfind⟩
  · exact iff_of_true hfind fun i h => absurd (standsWithin_bounds h).2.2 (Int.not_le.2 hcross)
  · rw [hfind, hfirst, hlast, Option.map_eq_none_iff]
    simp only [firstIndex?_eq_none_iff, occursAt_part hle hlength]
    refine ⟨fun h i hi => h (i - first) ?_, fun h j => h (first + j)⟩
    rwa [Nat.add_sub_of_le (Int.ofNat_le.1 hi.low_le)]

theorem occursAt_take {stop i : Nat} (hstop : stop ≤ text.length) :
    OccursAt pattern (text.take stop) i ↔ StandsWithin pattern text 0 stop i := by
  have h : OccursAt pattern ((text.take stop).drop 0) i ↔ StandsWithin pattern text 0 stop (0 + i) :=
    occursAt_part (Nat.zero_le stop) hstop
  rwa [List.drop_zero, Nat.zero_add] at h

theorem findLast?_eq (pattern text : List Char) (stop? : Option Int) :
    findLast? text pattern stop? =
      lastIndex? pattern (text.take (min (stop?.getD text.length).toNat text.length)) := by
  rw [findLast?, ← List.take_take, List.take_length]

theorem findLast?_eq_some_iff {stop? : Option Int} {i : Nat} :
    findLast? text pattern stop? = some i ↔
      IsGreatest {i | StandsWithin pattern text 0 (backwardReach text.length stop?) i} i := by
  rw [findLast?_eq, lastIndex?_eq_some_iff, backwardReach_eq]
  simp only [occursAt_take (Nat.min_le_right _ text.length)]
  refine and_congr_right fun _ => ?_
  exact ⟨fun h j hj => Nat.not_lt.1 fun hlt => h j hlt hj, fun h j hlt hj => Nat.not_lt.2 (h hj) hlt⟩

theorem findLast?_eq_none_iff {stop? : Option Int} :
    findLast? text pattern stop? = none ↔
      ∀ i, ¬StandsWithin pattern text 0 (backwardReach text.length stop?) i := by
  rw [findLast?_eq, lastIndex?_eq_none_iff, backwardReach_eq]
  simp only [occursAt_take (Nat.min_le_right _ text.length)]

/-- A look-up answers the least position at which the pattern stands from its start on within its reach,
and one from the back the greatest position within its own; without such a position there is no answer. -/
theorem lookups_within_bounds (text pattern : List Char) :
    (∀ (start : Int) (stop? : Option Int),
      (∀ i, find? text pattern start stop? = some i ↔
        IsLeast {i | StandsWithin pattern text (max start 0) (reach text.length stop?) i} i) ∧
      (find? text pattern start stop? = none ↔
        ∀ i, ¬StandsWithin pattern text (max start 0) (reach text.length stop?) i)) ∧
    ∀ stop? : Option Int,
      (∀ i, findLast? text pattern stop? = some i ↔
        IsGreatest {i | StandsWithin pattern text 0 (backwardReach text.length stop?) i} i) ∧
      (findLast? text pattern stop? = none ↔
        ∀ i, ¬StandsWithin pattern text 0 (backwardReach text.length stop?) i) :=
  ⟨fun _ _ => ⟨fun _ => find?_eq_some_iff, find?_eq_none_iff⟩,
    fun _ => ⟨fun _ => findLast?_eq_some_iff, findLast?_eq_none_iff⟩⟩

/-- An end that is negative is counted from the end of the text by one look-up and by the other it is not; an
empty pattern stands at the end. -/
example :
    find? "a:b".toList [] 2 (some (-1)) = some 2 ∧ find? "a:b".toList [':'] 0 (some (-1)) = some 1 ∧
      findLast? "a:b".toList [':'] (some (-1)) = none := by
  decide

/-! ## Scans for a character -/

/-- No `c` stands from `start` on before `stop`. -/
def Free (c : Char) (text : List Char) (start stop : Nat) : Prop :=
  ∀ i, start ≤ i → i < stop → text[i]? ≠ some c

/-- The first `c` from `start` on before `stop` stands at `i`; without one `i` is `stop`. -/
structure IsFirst (c : Char) (text : List Char) (start stop i : Nat) : Prop where
  start_le : start ≤ i
  le_stop : i ≤ stop
  occurs : i < stop → text[i]? = some c
  free : Free c text start i

/-- The last `c` before `stop` stands at `i?`, if there is one. -/
structure IsLast (c : Char) (text : List Char) (stop : Nat) (i? : Option Nat) : Prop where
  occurs : ∀ i ∈ i?, i < stop ∧ text[i]? = some c
  free : Free c text ((i?.map (· + 1)).getD 0) stop

variable {c : Char} {start stop : Nat}

theorem IsFirst.not_lt {i j : Nat} (hi : IsFirst c text start stop i)
    (hj : IsFirst c text start stop j) : ¬i < j := fun hlt =>
  hj.free i hi.start_le hlt (hi.occurs (Nat.lt_of_lt_of_le hlt hj.le_stop))

theorem IsFirst.unique {i j : Nat} (hi : IsFirst c text start stop i)
    (hj : IsFirst c text start stop j) : i = j :=
  Nat.le_antisymm (Nat.not_lt.1 (hj.not_lt hi)) (Nat.not_lt.1 (hi.not_lt hj))

theorem IsLast.not_lt {i? : Option Nat} {j : Nat} (hi : IsLast c text stop i?)
    (hj : IsLast c text stop (some j)) : j < (i?.map (· + 1)).getD 0 := by
  obtain ⟨hlt, hchar⟩ := hj.occurs j rfl
  exact Nat.not_le.1 fun hle => hi.free j hle hlt hchar

theorem IsLast.unique {i? j? : Option Nat} (hi : IsLast c text stop i?)
    (hj : IsLast c text stop j?) : i? = j? := by
  cases i? with
  | none =>
    cases j? with
    | none => rfl
    | some j => exact absurd (hi.not_lt hj) (Nat.not_lt_zero j)
  | some i =>
    cases j? with
    | none => exact absurd (hj.not_lt hi) (Nat.not_lt_zero i)
    | some j =>
      have hij : i < j + 1 := hj.not_lt hi
      have hji : j < i + 1 := hi.not_lt hj
      rw [Nat.le_antisymm (Nat.lt_succ_iff.1 hij) (Nat.lt_succ_iff.1 hji)]

theorem standsWithin_singleton {low high : Int} {i : Nat} :
    StandsWithin [c] text low high i ↔ low ≤ i ∧ (i : Int) < high ∧ text[i]? = some c := by
  have hstands : (text.drop i).take [c].length = [c] ↔ text[i]? = some c := by
    rw [List.length_singleton, List.take_one, List.head?_drop, Option.toList_eq_singleton_iff]
  exact ⟨fun h => ⟨h.low_le, h.le_high, hstands.1 h.stands⟩, fun h => ⟨h.1, h.2.1, hstands.2 h.2.2⟩⟩

theorem isFirst_find? (c : Char) (hstart : start ≤ stop) (hstop : stop ≤ text.length) :
    IsFirst c text start stop ((find? text [c] start (some (stop : Int))).getD stop) := by
  have hlow : max (start : Int) 0 = start := Int.max_eq_left (Int.natCast_nonneg start)
  have hreach : reach text.length (some (stop : Int)) = stop := by
    simp only [reach]
    omega
  cases hfind : find? text [c] start (some (stop : Int)) with
  | none =>
    simp only [find?_eq_none_iff, hlow, hreach, standsWithin_singleton, Int.ofNat_le, Int.ofNat_lt] at hfind
    exact ⟨hstart, Nat.le_refl stop, fun h => absurd h (Nat.lt_irrefl stop),
      fun i hi hlt h => hfind i ⟨hi, hlt, h⟩⟩
  | some j =>
    simp only [find?_eq_some_iff, hlow, hreach, standsWithin_singleton, Int.ofNat_le, Int.ofNat_lt] at hfind
    obtain ⟨⟨hj, hlt, hoccurs⟩, hmin⟩ := hfind
    refine ⟨hj, Nat.le_of_lt hlt, fun _ => hoccurs, fun i hi hij h => ?_⟩
    exact Nat.not_le.2 hij (hmin ⟨hi, Nat.lt_trans hij hlt, h⟩)

theorem find?_length (text pattern : List Char) (start : Int) :
    find? text pattern start (some (text.length : Int)) = find? text pattern start := by
  have hclamp : clamp text.length (text.length : Int) = text.length := clamp_of_le rfl (Nat.le_refl _)
  simp only [find?, Option.map_some, Option.getD_some, Option.map_none, Option.getD_none, hclamp]

theorem isLast_findLast? (c : Char) (text : List Char) (stop : Nat) :
    IsLast c text stop (findLast? text [c] (some (stop : Int))) := by
  have hstands : ∀ i, StandsWithin [c] text 0 (backwardReach text.length (some (stop : Int))) i ↔
      i < stop ∧ text[i]? = some c := by
    intro i
    rw [standsWithin_singleton]
    simp only [backwardReach]
    constructor
    · rintro ⟨-, hlt, hoccurs⟩
      exact ⟨by omega, hoccurs⟩
    · rintro ⟨hlt, hoccurs⟩
      obtain ⟨hlength, -⟩ := List.getElem?_eq_some_iff.1 hoccurs
      exact ⟨by omega, by omega, hoccurs⟩
  cases hlast : findLast? text [c] (some (stop : Int)) with
  | none =>
    simp only [findLast?_eq_none_iff, hstands] at hlast
    exact ⟨nofun, fun i _ hlt h => hlast i ⟨hlt, h⟩⟩
  | some j =>
    simp only [findLast?_eq_some_iff, hstands] at hlast
    refine ⟨?_, fun i hi hlt h => Nat.not_le.2 hi (hlast.2 ⟨hlt, h⟩)⟩
    rintro i ⟨⟩
    exact hlast.1

end DataSource.Text
