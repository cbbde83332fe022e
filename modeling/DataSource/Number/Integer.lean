import DataSource.Text.Numeral

/-!
# Integers in a text

Two ways to read an integer. `read` is strict: an optional sign, ASCII digits, not too many of them,
and a number of 64 bits. `readLoose?` also takes digits of any script, single underscores between
digits and blanks at the ends, and a number of any size.
-/

namespace DataSource.Integer

/-- The number that decimal digits stand for, most significant first. -/
def ofDigits (digits : List Nat) : Nat := digits.foldl (fun n d => 10 * n + d) 0

/-- The sign of a text and what follows it; a text without a sign is positive. -/
def splitSign : List Char → Bool × List Char
  | '-' :: rest => (true, rest)
  | '+' :: rest => (false, rest)
  | rest => (false, rest)

def signed (negative : Bool) (magnitude : Nat) : Int :=
  if negative then -magnitude else magnitude

/-- Whether a text is an optional sign and one or more ASCII digits. -/
def isInteger (text : List Char) : Bool :=
  let digits := (splitSign text).2
  !digits.isEmpty && digits.all Char.isDigit

/-- No more digits than these are read as one number; zeros at the front count. -/
def maxDigits : Nat := 4300

def min64 : Int := -9223372036854775808

def max64 : Int := 9223372036854775807

/-- Why a text or a value is not an integer of 64 bits. -/
inductive Fault where
  | notInteger
  | tooManyDigits
  | outOfRange (n : Int)
  deriving DecidableEq, Repr

def fit (n : Int) : Except Fault Int :=
  if min64 ≤ n ∧ n ≤ max64 then .ok n else .error (.outOfRange n)

theorem fit_eq_ok_iff {n m : Int} : fit n = .ok m ↔ m = n ∧ min64 ≤ n ∧ n ≤ max64 := by
  unfold fit
  split
  · rename_i h
    simp only [Except.ok.injEq]
    exact ⟨fun hn => ⟨hn.symm, h⟩, fun hn => hn.1.symm⟩
  · rename_i h
    exact ⟨nofun, fun hn => absurd hn.2 h⟩

def read (text : List Char) : Except Fault Int :=
  if isInteger text then
    let (negative, digits) := splitSign text
    if maxDigits < digits.length then .error .tooManyDigits
    else fit (signed negative (ofDigits (digits.map fun c => c.toNat - 48)))
  else .error .notInteger

/-- The values of digits of any script, which single underscores may separate. -/
def looseDigits? : List Char → Option (List Nat)
  | [] => none
  | [c] => (Text.digitValue? c).map ([·])
  | c :: '_' :: rest => do
    let d ← Text.digitValue? c
    let ds ← looseDigits? rest
    return d :: ds
  | c :: rest => do
    let d ← Text.digitValue? c
    let ds ← looseDigits? rest
    return d :: ds

/-- The integer that a text stands for in the loose spelling. -/
def readLoose? (text : List Char) : Option Int := do
  let (negative, rest) := splitSign (Text.trim text)
  let digits ← looseDigits? rest
  if maxDigits < digits.length then none else return signed negative (ofDigits digits)

end DataSource.Integer
