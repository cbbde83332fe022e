import DataSource.Value.Convert
import Mathlib.Algebra.Group.Nat.Defs
import Mathlib.Data.Nat.Basic

/-!
# Reading the decimal text of a number

`read_eq_ok_iff`: a text is read if and only if it spells an integer of 64 bits, a sign and digits, and
as that integer (`Spells`). `read_toString`: the decimal text of an integer of 64 bits is read as that
integer. The text has no character but digits and a sign (`mem_toString`), so it holds no separator of
a name.
-/

namespace DataSource

namespace Integer

/-! ## Spellings -/

/-- One or more decimal digits, but no more than are read as one number. -/
def IsNumeral (digits : List Char) : Prop :=
  digits ≠ [] ∧ digits.length ≤ 4300 ∧ ∀ c ∈ digits, c.isDigit = true

/-- The spellings of an integer: its digits, zeros in front of them and a sign if there is one. -/
inductive Spells : List Char → Int → Prop
  | plain {digits : List Char} (h : IsNumeral digits) : Spells digits (Nat.ofDigitChars 10 digits 0)
  | plus {digits : List Char} (h : IsNumeral digits) :
      Spells ('+' :: digits) (Nat.ofDigitChars 10 digits 0)
  | minus {digits : List Char} (h : IsNumeral digits) :
      Spells ('-' :: digits) (-Nat.ofDigitChars 10 digits 0)

/-- Whether a text spells an integer between two bounds. -/
def SpellsWithin (low high : Int) (text : List Char) : Prop := ∃ n, Spells text n ∧ low ≤ n ∧ n ≤ high

theorem splitSign_of_isNumeral {digits : List Char} (h : IsNumeral digits) :
    splitSign digits = (false, digits) := by
  obtain ⟨-, -, hdigit⟩ := h
  unfold splitSign
  split
  · exact absurd (hdigit '-' List.mem_cons_self) (by decide)
  · exact absurd (hdigit '+' List.mem_cons_self) (by decide)
  · rfl

theorem spells_iff {text : List Char} {n : Int} :
    Spells text n ↔ IsNumeral (splitSign text).2 ∧
      n = signed (splitSign text).1 (Nat.ofDigitChars 10 (splitSign text).2 0) := by
  constructor
  · intro h
    cases h with
    | plain h => rw [splitSign_of_isNumeral h]; exact ⟨h, rfl⟩
    | plus h => exact ⟨h, rfl⟩
    | minus h => exact ⟨h, rfl⟩
  · rintro ⟨h, rfl⟩
    unfold splitSign at h ⊢
    split at h
    · exact .minus h
    · exact .plus h
    · exact .plain h

theorem isNumeral_iff {text : List Char} :
    IsNumeral (splitSign text).2 ↔
      isInteger text = true ∧ (splitSign text).2.length ≤ maxDigits := by
  simp only [IsNumeral, isInteger, Bool.and_eq_true, Bool.not_eq_true', List.isEmpty_eq_false_iff,
    List.all_eq_true, maxDigits]
  rw [and_right_comm, and_assoc]

theorem read_of_spells {text : List Char} {n : Int} (h : Spells text n) : read text = fit n := by
  obtain ⟨hnumeral, rfl⟩ := spells_iff.1 h
  obtain ⟨hinteger, hlength⟩ := isNumeral_iff.1 hnumeral
  have hvalue : ofDigits ((splitSign text).2.map fun c => c.toNat - 48) =
      Nat.ofDigitChars 10 (splitSign text).2 0 := by
    rw [ofDigits, List.foldl_map]
    rfl
  simp only [read, hinteger, if_true, if_neg (Nat.not_lt.2 hlength), hvalue]

theorem isNumeral_of_read {text : List Char} {n : Int} (h : read text = .ok n) :
    IsNumeral (splitSign text).2 := by
  rw [isNumeral_iff]
  by_cases hinteger : isInteger text = true
  · by_cases hlength : maxDigits < (splitSign text).2.length
    · simp only [read, hinteger, if_true, hlength] at h
      cases h
    · exact ⟨hinteger, Nat.not_lt.1 hlength⟩
  · rw [read, if_neg hinteger] at h
    cases h

/-- A text is read if it spells an integer of 64 bits, and as that integer. -/
theorem read_eq_ok_iff {text : List Char} {n : Int} :
    read text = .ok n ↔ Spells text n ∧ min64 ≤ n ∧ n ≤ max64 := by
  constructor
  · intro h
    have hspells : Spells text (signed (splitSign text).1 (Nat.ofDigitChars 10 (splitSign text).2 0)) :=
      spells_iff.2 ⟨isNumeral_of_read h, rfl⟩
    rw [read_of_spells hspells] at h
    obtain ⟨rfl, hbounds⟩ := fit_eq_ok_iff.1 h
    exact ⟨hspells, hbounds⟩
  · rintro ⟨hspells, hbounds⟩
    rw [read_of_spells hspells]
    exact fit_eq_ok_iff.2 ⟨rfl, hbounds⟩

/-! ## Decimal texts -/

theorem toList_toString_natCast (n : Nat) : (toString (n : Int)).toList = Nat.toDigits 10 n :=
  Nat.toList_repr

theorem toList_toString_negSucc (n : Nat) :
    (toString (Int.negSucc n)).toList = '-' :: Nat.toDigits 10 (n + 1) := by
  show ("-" ++ Nat.repr (n + 1)).toList = _
  rw [String.toList_append, Nat.toList_repr]
  rfl

theorem isDigit_of_mem_toDigits {c : Char} {n : Nat} (h : c ∈ Nat.toDigits 10 n) :
    c.isDigit = true :=
  Nat.isDigit_of_mem_toDigits (by decide) (by decide) h

theorem mem_toString {c : Char} {n : Int} (h : c ∈ (toString n).toList) :
    c.isDigit = true ∨ c = '-' := by
  cases n with
  | ofNat n => exact Or.inl (isDigit_of_mem_toDigits (toList_toString_natCast n ▸ h))
  | negSucc n =>
    rw [toList_toString_negSucc, List.mem_cons] at h
    rcases h with rfl | hc
    · exact Or.inr rfl
    · exact Or.inl (isDigit_of_mem_toDigits hc)

theorem isNumeral_toDigits {n : Nat} (h : n ≤ 2 ^ 63) : IsNumeral (Nat.toDigits 10 n) := by
  have hlength : (Nat.toDigits 10 n).length ≤ 20 :=
    (Nat.length_toDigits_le_iff (by decide) (by decide)).2 (by omega)
  exact ⟨Nat.toDigits_ne_nil, by omega, fun c hc => isDigit_of_mem_toDigits hc⟩

theorem spells_toString {n : Int} (hmin : min64 ≤ n) (hmax : n ≤ max64) :
    Spells (toString n).toList n := by
  cases n with
  | ofNat n =>
    have hn : n ≤ 2 ^ 63 := by
      simp only [max64, Int.ofNat_eq_natCast] at hmax
      omega
    have h := Spells.plain (isNumeral_toDigits hn)
    rw [Nat.ofDigitChars_ten_toDigits] at h
    exact (toList_toString_natCast n).symm ▸ h
  | negSucc n =>
    have hn : n + 1 ≤ 2 ^ 63 := by
      simp only [min64, Int.negSucc_eq] at hmin
      omega
    have h := Spells.minus (isNumeral_toDigits hn)
    rw [Nat.ofDigitChars_ten_toDigits] at h
    rw [toList_toString_negSucc]
    exact h

theorem read_toString {n : Int} (hmin : min64 ≤ n) (hmax : n ≤ max64) :
    read (toString n).toList = .ok n :=
  read_eq_ok_iff.2 ⟨spells_toString hmin hmax, hmin, hmax⟩

end Integer

theorem readInteger_eq_ok_iff {text : String} {n : Int} :
    readInteger text = .ok n ↔
      Integer.Spells text.toList n ∧ Integer.min64 ≤ n ∧ n ≤ Integer.max64 := by
  rw [← Integer.read_eq_ok_iff, readInteger]
  cases Integer.read text.toList with
  | error fault => exact ⟨nofun, nofun⟩
  | ok m => exact ⟨fun h => congrArg _ (Except.ok.inj h), fun h => congrArg _ (Except.ok.inj h)⟩

theorem readInteger_toString {n : Int} (hmin : Integer.min64 ≤ n) (hmax : n ≤ Integer.max64) :
    readInteger (toString n) = .ok n :=
  readInteger_eq_ok_iff.2 ⟨Integer.spells_toString hmin hmax, hmin, hmax⟩

end DataSource
