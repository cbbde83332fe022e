import DataSource.Number.Integer
import DataSource.Number.Shortest
import DataSource.Text.Search

/-!
# Binary numbers as text

`Binary64.text` writes a number with the fewest digits that read back to it, in positional notation
for numbers of a middling size and with an exponent otherwise. `Binary64.read?` reads the number
nearest to a decimal.
-/

namespace DataSource.Binary64

/-! ## Writing -/

/-- The least position of the point, counted from the first digit, in positional notation: three
zeros may stand between the point and the first digit. -/
def narrowest : Int := -3

/-- The greatest position of the point in positional notation: sixteen digits may stand in front of
it. -/
def widest : Int := 16

def exponentText (n : Int) : String :=
  (if n < 0 then "-" else "+") ++ (if n.natAbs < 10 then "0" else "") ++ toString n.natAbs

/-- The text of `0.d₁d₂… * 10 ^ point`, where `digits` is `d₁d₂…`. -/
def layOut (digits : List Char) (point : Int) : String :=
  let size : Int := digits.length
  if point < narrowest ∨ widest < point then
    let tail := digits.drop 1
    String.ofList (digits.take 1) ++ (if tail.isEmpty then "" else "." ++ String.ofList tail)
      ++ "e" ++ exponentText (point - 1)
  else if point ≤ 0 then
    "0." ++ String.ofList (List.replicate (-point).toNat '0' ++ digits)
  else if size ≤ point then
    String.ofList (digits ++ List.replicate (point - size).toNat '0') ++ ".0"
  else
    String.ofList (digits.take point.toNat) ++ "." ++ String.ofList (digits.drop point.toNat)

def text : Binary64 → String
  | nan => "nan"
  | infinite negative => if negative then "-inf" else "inf"
  | finite negative significand exponent =>
    (if negative then "-" else "") ++
      if significand = 0 then "0.0"
      else
        let d := Shortest.decimal significand exponent
        let digits := Nat.toDigits 10 d.digits
        layOut digits (digits.length + d.power)

/-! ## Reading -/

/-- The digits of a group that may be empty. -/
def group? (text : List Char) : Option (List Nat) :=
  if text.isEmpty then some [] else Integer.looseDigits? text

/-- The exponent that follows the mark of one. -/
def exponent? (text : List Char) : Option Int := do
  let (negative, rest) := Integer.splitSign text
  let digits ← Integer.looseDigits? rest
  return Integer.signed negative (Integer.ofDigits digits)

/-- The number nearest to `digits * 10 ^ power`. A decimal whose first digit lies beyond the range of
finite numbers is not worked out. -/
def ofDecimal (negative : Bool) (digits : List Nat) (power : Int) : Binary64 :=
  let significant := digits.dropWhile (· == 0)
  let point := significant.length + power
  if significant.isEmpty ∨ point < -400 then finite negative 0 0
  else if 400 < point then infinite negative
  else
    ofQuotient negative (Integer.ofDigits significant * Nat.pow 10 power.toNat)
      (Nat.pow 10 (-power).toNat)

/-- The number that a text without a sign stands for. -/
def readUnsigned? (negative : Bool) (text : List Char) : Option Binary64 :=
  let word := text.map Char.toLower
  if word = "inf".toList ∨ word = "infinity".toList then some (infinite negative)
  else if word = "nan".toList then some nan
  else do
    let (mantissa, power) ←
      match Text.cut (fun c => c == 'e' || c == 'E') text with
      | none => some (text, (0 : Int))
      | some (before, after) => (exponent? after).map (before, ·)
    let (whole, fraction) := (Text.cut (· == '.') mantissa).getD (mantissa, [])
    let high ← group? whole
    let low ← group? fraction
    if high.isEmpty && low.isEmpty then none
    else return ofDecimal negative (high ++ low) (power - low.length)

/-- The number that a text stands for: a decimal with an optional sign, point and exponent, or the
name of a value that is not finite. -/
def read? (text : List Char) : Option Binary64 :=
  let (negative, rest) := Integer.splitSign (Text.trim text)
  readUnsigned? negative rest

end DataSource.Binary64
