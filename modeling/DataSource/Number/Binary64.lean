/-!
# Binary numbers of 64 bits

The numbers that a machine keeps in 64 bits of floating point: a sign, a significand of at most 53
bits and a power of two, besides two infinities and one value that is not a number. `ofQuotient`
rounds a quotient of naturals to the nearest of them, and a tie goes to the even significand.
-/

namespace DataSource

/-- A binary number of 64 bits: `significand * 2 ^ exponent` with a sign, or one of the values that
are not finite. -/
inductive Binary64 where
  | finite (negative : Bool) (significand : Nat) (exponent : Int)
  | infinite (negative : Bool)
  | nan
  deriving DecidableEq, Repr

namespace Binary64

/-- The natural number nearest to `num / den`; of two nearest ones, the even one. -/
def roundHalfEven (num den : Nat) : Nat :=
  let whole := num / den
  let rest := num % den
  if 2 * rest < den then whole
  else if den < 2 * rest then whole + 1
  else whole + whole % 2

def powerLe (k : Int) (num den : Nat) : Bool :=
  den * Nat.pow 2 k.toNat ≤ num * Nat.pow 2 (-k).toNat

/-- The greatest `k` with `2 ^ k ≤ num / den`, for positive `num` and `den`. -/
def magnitude (num den : Nat) : Int :=
  let guess := (num.log2 : Int) - den.log2
  if powerLe guess num den then guess else guess - 1

def minExponent : Int := -1074

def maxExponent : Int := 971

/-- The number nearest to `num / den`, with a sign. -/
def ofQuotient (negative : Bool) (num den : Nat) : Binary64 :=
  if num = 0 then finite negative 0 0 else
  let exponent := max (magnitude num den - 52) minExponent
  let significand :=
    roundHalfEven (num * Nat.pow 2 (-exponent).toNat) (den * Nat.pow 2 exponent.toNat)
  if significand = 0 then finite negative 0 0
  else if significand = Nat.pow 2 53 then
    if exponent < maxExponent then finite negative (Nat.pow 2 52) (exponent + 1)
    else infinite negative
  else if exponent ≤ maxExponent then finite negative significand exponent
  else infinite negative

/-- The number without what follows its point; zero if it is not finite. -/
def truncate : Binary64 → Int
  | finite negative significand exponent =>
    let n := significand * Nat.pow 2 exponent.toNat / Nat.pow 2 (-exponent).toNat
    if negative then -n else n
  | infinite _ => 0
  | nan => 0

def isZero : Binary64 → Bool
  | finite _ significand _ => significand == 0
  | infinite _ => false
  | nan => false

end Binary64

end DataSource
