/-!
# Digits

Numbers written in a base with a least number of digits, and the values of hexadecimal digits.
-/

namespace DataSource.Text

/-- The lower-case digits of `n` in a base, at least `width` of them. -/
def digits (base width n : Nat) : List Char :=
  let shortest := Nat.toDigits base n
  List.replicate (width - shortest.length) '0' ++ shortest

def decimal (width n : Nat) : String := String.ofList (digits 10 width n)

/-- The number that a hexadecimal digit of either case stands for. -/
def hexValue? (c : Char) : Option Nat :=
  if '0' ≤ c ∧ c ≤ '9' then some (c.toNat - 48)
  else if 'A' ≤ c ∧ c ≤ 'F' then some (c.toNat - 55)
  else if 'a' ≤ c ∧ c ≤ 'f' then some (c.toNat - 87)
  else none

end DataSource.Text
