/-!
# Bounded look-ups in a text

A text is a list of characters and a position counts characters. `find?` and `findLast?` look for the
first and the last occurrence of a pattern between two bounds, and `slice` cuts a part out. A
negative bound counts from the end of the text, and a bound outside the text is moved to its nearer
end.
-/

namespace DataSource.Text

/-! ## Bounds -/

/-- The position that `bound` names in a text of `size` characters. -/
def clamp (size : Nat) (bound : Int) : Nat :=
  if bound < 0 then (size + bound).toNat else min bound.toNat size

theorem clamp_le (size : Nat) (bound : Int) : clamp size bound ≤ size := by
  unfold clamp; split <;> omega

/-- The part of `text` from `start` up to, and without, `stop`. -/
def slice (text : List Char) (start stop : Int) : List Char :=
  (text.take (clamp text.length stop)).drop (clamp text.length start)

/-! ## Occurrences -/

def firstIndex? (pattern : List Char) : List Char → Option Nat
  | [] => if pattern.isEmpty then some 0 else none
  | c :: cs =>
    if pattern.isPrefixOf (c :: cs) then some 0 else (firstIndex? pattern cs).map (· + 1)

def lastIndex? (pattern : List Char) : List Char → Option Nat
  | [] => if pattern.isEmpty then some 0 else none
  | c :: cs =>
    match lastIndex? pattern cs with
    | some i => some (i + 1)
    | none => if pattern.isPrefixOf (c :: cs) then some 0 else none

/-- The first occurrence of `pattern` that starts at or after `start` and ends at or before `stop`;
a negative `start` is the beginning, and no `stop` is the end. -/
def find? (text pattern : List Char) (start : Int) (stop : Option Int := none) : Option Nat :=
  let first := start.toNat
  let last := (stop.map (clamp text.length)).getD text.length
  if first ≤ last then
    (firstIndex? pattern ((text.take last).drop first)).map (first + ·)
  else none

/-- The last occurrence of `pattern` that ends at or before `stop`; a negative `stop` is the
beginning, and no `stop` is the end. -/
def findLast? (text pattern : List Char) (stop : Option Int := none) : Option Nat :=
  lastIndex? pattern (text.take (stop.getD text.length).toNat)

/-! ## Cutting at a mark -/

/-- The text before and after the first character that `isMark` takes, if there is one. -/
def cut (isMark : Char → Bool) : List Char → Option (List Char × List Char)
  | [] => none
  | c :: rest =>
    if isMark c then some ([], rest)
    else (cut isMark rest).map fun (before, after) => (c :: before, after)

theorem cut_eq_none_iff {isMark : Char → Bool} {text : List Char} :
    cut isMark text = none ↔ ∀ c ∈ text, isMark c = false := by
  induction text with
  | nil => simp [cut]
  | cons c rest ih =>
    by_cases h : isMark c
    · simp [cut, h]
    · simp [cut, h, ih]

theorem cut_eq_some_iff {isMark : Char → Bool} {text before after : List Char} :
    cut isMark text = some (before, after) ↔
      ∃ c, isMark c ∧ (∀ d ∈ before, isMark d = false) ∧ text = before ++ c :: after := by
  induction text generalizing before with
  | nil => simp [cut]
  | cons c rest ih =>
    by_cases h : isMark c
    · simp only [cut, h, if_true, Option.some.injEq, Prod.mk.injEq]
      constructor
      · rintro ⟨rfl, rfl⟩
        exact ⟨c, h, by simp, rfl⟩
      · rintro ⟨d, hd, hb, ht⟩
        cases before with
        | nil => simp_all
        | cons b bs =>
          obtain ⟨rfl, -⟩ := List.cons.inj ht
          simp [h] at hb
    · simp only [cut, h, Bool.false_eq_true, if_false, Option.map_eq_some_iff, Prod.exists,
        Prod.mk.injEq]
      constructor
      · rintro ⟨bs, as, hcut, rfl, rfl⟩
        obtain ⟨d, hd, hb, rfl⟩ := ih.1 hcut
        exact ⟨d, hd, by simpa [h] using hb, rfl⟩
      · rintro ⟨d, hd, hb, ht⟩
        cases before with
        | nil =>
          obtain ⟨rfl, -⟩ := List.cons.inj ht
          exact absurd hd h
        | cons b bs =>
          obtain ⟨rfl, rfl⟩ := List.cons.inj ht
          exact ⟨bs, after, ih.2 ⟨d, hd, fun x hx => hb x (List.mem_cons_of_mem _ hx), rfl⟩, rfl, rfl⟩

def endsWith (text ending : List Char) : Bool := ending.isSuffixOf text

end DataSource.Text
