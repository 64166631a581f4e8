import FieldRules.Double.Basic

/-!
# Shortest decimal digits

Of all decimals that read back as a given number, the digits of a shortest one that lies nearest to it.
-/
set_option autoImplicit false

namespace FieldRules

/-- The decimal `0.d₁d₂… * 10 ^ point`, where `d₁d₂…` spell `digits`. -/
structure Decimal where
  digits : List Char
  point : Int
  deriving DecidableEq

namespace Double

/-- Which of two equally near decimals is written. -/
inductive Tie where
  | up
  | even

/-- The open or closed interval of fractions over one denominator that round to a number. -/
structure Rounding where
  low : Nat
  value : Nat
  high : Nat
  denominator : Nat
  closed : Bool

def Finite.rounding (x : Finite) : Rounding :=
  let step := 1 <<< x.exponent
  let below := if x.mantissa = 1 <<< 52 ∧ 0 < x.exponent then step else 2 * step
  { low := 4 * x.magnitude - below
    value := 4 * x.magnitude
    high := 4 * x.magnitude + 2 * step
    denominator := 4 <<< 1074
    closed := x.mantissa % 2 = 0 }

def Rounding.contains (r : Rounding) (count : Nat) (exponent : Int) : Bool :=
  let (numerator, denominator) := decimalRatio count exponent
  let scaled := numerator * r.denominator
  if r.closed then r.low * denominator ≤ scaled ∧ scaled ≤ r.high * denominator
  else r.low * denominator < scaled ∧ scaled < r.high * denominator

/-- The exponent `p` with `10 ^ (p - 1) ≤ value < 10 ^ p`. -/
def Rounding.point (r : Rounding) : Int :=
  if r.denominator ≤ r.value then digitCount (r.value / r.denominator)
  else 1 - (digitCount ((r.denominator - 1) / r.value) : Int)

/-- The better of the value's two neighbours on the grid of `10 ^ exponent`, if one of them reads back. -/
def Rounding.onGrid? (r : Rounding) (tie : Tie) (exponent : Int) : Option Nat :=
  let (unit, denominator) := decimalRatio 1 exponent
  let divisor := r.denominator * unit
  let scaled := r.value * denominator
  let lower := scaled / divisor
  let twice := 2 * (scaled % divisor)
  let upperFirst : Bool :=
    if twice = divisor then (match tie with | .up => true | .even => lower % 2 = 1)
    else divisor < twice
  match r.contains lower exponent, r.contains (lower + 1) exponent with
  | true, true => some (if upperFirst then lower + 1 else lower)
  | true, false => some lower
  | false, true => some (lower + 1)
  | false, false => none

/-- The first grid, from coarse to fine, on which the number has a neighbour that reads back. -/
def Rounding.shortest (r : Rounding) (tie : Tie) : Nat × Int :=
  let point := r.point
  let found := (List.range 17).findSome? fun (n : Nat) =>
    let exponent := point - (n + 1 : Nat)
    (r.onGrid? tie exponent).map fun count => (count, exponent)
  found.getD (0, 0)

def Finite.shortest (x : Finite) (tie : Tie) : Decimal :=
  let (count, exponent) := x.rounding.shortest tie
  let digits := Nat.toDigits 10 count
  { digits := (digits.reverse.dropWhile (· == '0')).reverse
    point := digits.length + exponent }

end Double
end FieldRules
