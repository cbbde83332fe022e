import DataSource.Number.Binary64

/-!
# The shortest decimal of a binary number

Among the decimals that round to a given binary number, `Shortest.decimal` finds one with the fewest
digits, and of those the one nearest to the number. On the grid of the decimals with `n` digits only
the two neighbours of the number have to be tried: if any point of the grid rounds to the number,
one of its neighbours does.
-/

namespace DataSource.Shortest

structure Decimal where
  digits : Nat
  power : Int

/-- The reals that round to a number, in units of `1 / denominator`: from `low` to `high` around
`value`, with the ends or without them. -/
structure Interval where
  low : Nat
  value : Nat
  high : Nat
  denominator : Nat
  closed : Bool

/-- The interval of `significand * 2 ^ exponent`. Below a power of two the neighbour is half as far
away as above it. -/
def interval (significand : Nat) (exponent : Int) : Interval :=
  let scale := Nat.pow 2 exponent.toNat
  let below := if significand = Nat.pow 2 52 ∧ Binary64.minExponent < exponent then 1 else 2
  { low := (4 * significand - below) * scale
    value := 4 * significand * scale
    high := (4 * significand + 2) * scale
    denominator := 4 * Nat.pow 2 (-exponent).toNat
    closed := significand % 2 == 0 }

def Interval.holds (i : Interval) (n : Nat) (power : Int) : Bool :=
  let point := n * Nat.pow 10 power.toNat * i.denominator
  let scale := Nat.pow 10 (-power).toNat
  if i.closed then i.low * scale ≤ point && point ≤ i.high * scale
  else i.low * scale < point && point < i.high * scale

/-- The least `p` from `start` on with `value < 10 ^ p`, looking at most `fuel` further. -/
def digitCount (i : Interval) (start : Int) : Nat → Int
  | 0 => start
  | fuel + 1 =>
    if i.value * Nat.pow 10 (-start).toNat < i.denominator * Nat.pow 10 start.toNat then start
    else digitCount i (start + 1) fuel

/-- The decimal with digits down to `10 ^ power` that rounds to the number, if there is one; of two,
the nearer. -/
def onGrid? (i : Interval) (power : Int) : Option Decimal :=
  let num := i.value * Nat.pow 10 (-power).toNat
  let den := i.denominator * Nat.pow 10 power.toNat
  let n := num / den
  match i.holds n power, i.holds (n + 1) power with
  | true, true => some ⟨Binary64.roundHalfEven num den, power⟩
  | true, false => some ⟨n, power⟩
  | false, true => some ⟨n + 1, power⟩
  | false, false => none

def stripZeros (d : Decimal) : Nat → Decimal
  | 0 => d
  | fuel + 1 => if d.digits % 10 = 0 then stripZeros ⟨d.digits / 10, d.power + 1⟩ fuel else d

/-- The shortest decimal that rounds to `significand * 2 ^ exponent`. -/
def decimal (significand : Nat) (exponent : Int) : Decimal :=
  let i := interval significand exponent
  let top := Binary64.magnitude i.value i.denominator
  let count := digitCount i (top * 30103 / 100000) 3
  let found := (List.range 17).findSome? fun n : Nat => onGrid? i (count - (n + 1))
  stripZeros (found.getD ⟨significand, 0⟩) 17

end DataSource.Shortest
