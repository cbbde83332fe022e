import DataSource.Proofs.Number.Decimal
import DataSource.Value.Convert
import Mathlib.Data.Nat.Digits.Defs

/-!
# The integer that a text denotes

Digits denote the sum of their values at their places (`numeral`), which is what reading them one after
the other comes to (`ofDigitChars_eq`), and a sign in front of them may turn it round (`Denotes`). A text
is read as an integer exactly if it denotes one of 64 bits, so two texts that denote the same integer are
read alike, with a plus sign, zeros in front, or neither (`toInteger_text`).
-/

namespace DataSource

namespace Integer

/-! ## Place values -/

/-- The number that decimal digits denote, the last of them in the place of the ones. -/
def numeral (digits : List Char) : Nat :=
  Nat.ofDigits 10 (digits.map fun c => c.toNat - '0'.toNat).reverse

theorem numeral_cons (c : Char) (rest : List Char) :
    numeral (c :: rest) = numeral rest + 10 ^ rest.length * (c.toNat - '0'.toNat) := by
  rw [numeral, List.map_cons, Nat.ofDigits_reverse_cons, List.length_map]
  rfl

theorem numeral_zeros (zeros : Nat) (digits : List Char) :
    numeral (List.replicate zeros '0' ++ digits) = numeral digits := by
  rw [numeral, List.map_append, List.map_replicate, List.reverse_append, List.reverse_replicate]
  exact Nat.ofDigits_append_replicate_zero _

theorem ofDigitChars_eq (digits : List Char) (n : Nat) :
    Nat.ofDigitChars 10 digits n = 10 ^ digits.length * n + numeral digits := by
  induction digits generalizing n with
  | nil => simp [numeral]
  | cons c rest ih =>
    calc
      _ = Nat.ofDigitChars 10 rest (10 * n + (c.toNat - '0'.toNat)) := Nat.ofDigitChars_cons
      _ = 10 ^ rest.length * (10 * n + (c.toNat - '0'.toNat)) + numeral rest := ih _
      _ = 10 ^ (c :: rest).length * n + numeral (c :: rest) := by
        rw [numeral_cons, List.length_cons]
        ring

/-! ## Texts with a sign -/

/-- The integer of a text: that of its digits, or the negative of it behind a minus sign. -/
def Denotes (text : List Char) (n : Int) : Prop :=
  ∃ digits, IsNumeral digits ∧
    ((text = digits ∨ text = '+' :: digits) ∧ n = numeral digits ∨
      text = '-' :: digits ∧ n = -numeral digits)

theorem denotes_iff_spells {text : List Char} {n : Int} : Denotes text n ↔ Spells text n := by
  have hvalue (digits : List Char) : Nat.ofDigitChars 10 digits 0 = numeral digits := by
    rw [ofDigitChars_eq, Nat.mul_zero, Nat.zero_add]
  constructor
  · rintro ⟨digits, hdigits, ⟨rfl | rfl, rfl⟩ | ⟨rfl, rfl⟩⟩
    · exact hvalue text ▸ .plain hdigits
    · exact hvalue digits ▸ .plus hdigits
    · exact hvalue digits ▸ .minus hdigits
  · intro h
    cases h with
    | plain h => exact ⟨text, h, .inl ⟨.inl rfl, by rw [hvalue]⟩⟩
    | plus h => exact ⟨_, h, .inl ⟨.inr rfl, by rw [hvalue]⟩⟩
    | minus h => exact ⟨_, h, .inr ⟨rfl, by rw [hvalue]⟩⟩

theorem IsNumeral.zeros {digits : List Char} (h : IsNumeral digits) {zeros : Nat}
    (hlength : zeros + digits.length ≤ 4300) : IsNumeral (List.replicate zeros '0' ++ digits) := by
  obtain ⟨hne, -, hdigit⟩ := h
  refine ⟨List.append_ne_nil_of_right_ne_nil _ hne, by simpa using hlength, fun c hc => ?_⟩
  rcases List.mem_append.1 hc with hzero | hrest
  · rw [List.eq_of_mem_replicate hzero]
    rfl
  · exact hdigit c hrest

/-- The signs that a text may have. -/
def signs : List (List Char) := [[], ['+'], ['-']]

theorem exists_denotes_of_sign {sign digits others : List Char} (hsign : sign ∈ signs)
    (hdigits : IsNumeral digits) (hothers : IsNumeral others) (hvalue : numeral digits = numeral others) :
    ∃ n, Denotes (sign ++ digits) n ∧ Denotes (sign ++ others) n := by
  simp only [signs, List.mem_cons, List.not_mem_nil, or_false] at hsign
  rcases hsign with rfl | rfl | rfl
  · exact ⟨numeral digits, ⟨digits, hdigits, .inl ⟨.inl rfl, rfl⟩⟩,
      ⟨others, hothers, .inl ⟨.inl rfl, by rw [hvalue]⟩⟩⟩
  · exact ⟨numeral digits, ⟨digits, hdigits, .inl ⟨.inr rfl, rfl⟩⟩,
      ⟨others, hothers, .inl ⟨.inr rfl, by rw [hvalue]⟩⟩⟩
  · exact ⟨-numeral digits, ⟨digits, hdigits, .inr ⟨rfl, rfl⟩⟩,
      ⟨others, hothers, .inr ⟨rfl, by rw [hvalue]⟩⟩⟩

end Integer

open Integer (Denotes IsNumeral)

/-! ## Reading a text -/

theorem readInteger_congr {text other : List Char} {n : Int} (htext : Denotes text n)
    (hother : Denotes other n) : readInteger (String.ofList text) = readInteger (String.ofList other) := by
  rw [readInteger, readInteger, String.toList_ofList, String.toList_ofList,
    Integer.read_of_spells (Integer.denotes_iff_spells.1 htext),
    Integer.read_of_spells (Integer.denotes_iff_spells.1 hother), Integer.fit]
  split <;> rfl

namespace Value

/-- A text is read as an integer if and only if it denotes one of 64 bits, and as that integer. So the
decimal text of an integer of 64 bits is read as the integer; and neither a plus sign in front of digits nor
zeros there, up to the number of digits that are read at all, change what they are read as. -/
theorem toInteger_text :
    (∀ (text : String) (n : Int), toInteger (.text text) = .ok n ↔
      Denotes text.toList n ∧ -2 ^ 63 ≤ n ∧ n ≤ 2 ^ 63 - 1) ∧
    (∀ n : Int, -2 ^ 63 ≤ n → n ≤ 2 ^ 63 - 1 → toInteger (.text (toString n)) = .ok n) ∧
    (∀ digits, IsNumeral digits →
      toInteger (.text (String.ofList ('+' :: digits))) = toInteger (.text (String.ofList digits))) ∧
    ∀ sign ∈ Integer.signs, ∀ digits zeros, IsNumeral digits → zeros + digits.length ≤ 4300 →
      toInteger (.text (String.ofList (sign ++ (List.replicate zeros '0' ++ digits)))) =
        toInteger (.text (String.ofList (sign ++ digits))) := by
  have hmin : (-2 ^ 63 : Int) = Integer.min64 := rfl
  have hmax : (2 ^ 63 - 1 : Int) = Integer.max64 := rfl
  rw [hmin, hmax]
  refine ⟨fun text n => ?_, fun n hlow hhigh => ?_, fun digits hdigits => ?_,
    fun sign hsign digits zeros hdigits hlength => ?_⟩
  · rw [Integer.denotes_iff_spells]
    exact readInteger_eq_ok_iff
  · exact readInteger_toString hlow hhigh
  · exact readInteger_congr ⟨digits, hdigits, .inl ⟨.inr rfl, rfl⟩⟩ ⟨digits, hdigits, .inl ⟨.inl rfl, rfl⟩⟩
  · obtain ⟨n, hzeros, hplain⟩ := Integer.exists_denotes_of_sign hsign (hdigits.zeros hlength) hdigits
      (Integer.numeral_zeros zeros digits)
    exact readInteger_congr hzeros hplain

theorem toInteger_text_zeros :
    IsNumeral "43".toList ∧ ['-'] ∈ Integer.signs ∧
      toInteger (.text (String.ofList (['-'] ++ (List.replicate 4298 '0' ++ "43".toList)))) = .ok (-43) ∧
      toInteger (.text (String.ofList ('+' :: "43".toList))) = .ok 43 ∧
      ¬∃ n, toInteger (.text (String.ofList (List.replicate 4301 '0'))) = .ok n := by
  have hdigits : IsNumeral "43".toList := ⟨by decide, by decide, List.all_eq_true.1 rfl⟩
  obtain ⟨hexact, htext, hplus, hzeros⟩ := toInteger_text
  refine ⟨hdigits, by decide, ?_, ?_, ?_⟩
  · rw [hzeros ['-'] (by decide) _ 4298 hdigits (Nat.le_refl 4300)]
    exact htext (-43) (by decide) (by decide)
  · rw [hplus _ hdigits]
    exact htext 43 (by decide) (by decide)
  · rintro ⟨n, hn⟩
    obtain ⟨⟨digits, ⟨-, hlength, -⟩, hdigits⟩, -⟩ := (hexact _ n).1 hn
    rw [String.toList_ofList, List.replicate_succ] at hdigits
    rcases hdigits with ⟨rfl | hplus, -⟩ | ⟨hminus, -⟩
    · rw [List.length_cons, List.length_replicate] at hlength
      exact absurd hlength (by decide)
    · exact absurd (List.cons.inj hplus).1 (by decide)
    · exact absurd (List.cons.inj hminus).1 (by decide)

end Value

end DataSource
