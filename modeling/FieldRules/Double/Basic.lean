/-!
# Binary64 numbers

Numbers are kept exactly: a finite one is a whole count of the smallest positive step, `2 ^ -1074`.
Order and equality are read off that count, rounding is done once, in `Double.ofRatio`.
-/
set_option autoImplicit false

namespace FieldRules

/-- The finite number `± mantissa * 2 ^ exponent` in units of `2 ^ -1074`. Each magnitude has one form. -/
structure Double.Finite where
  negative : Bool
  mantissa : Nat
  exponent : Nat
  mantissa_lt : mantissa < 1 <<< 53
  exponent_le : exponent ≤ 2045
  normal : exponent = 0 ∨ 1 <<< 52 ≤ mantissa
  deriving DecidableEq

/-- A binary64 number. The equality of the type tells `0` from `-0`; comparison of values is `Double.same`. -/
inductive Double where
  | nan
  | infinite (negative : Bool)
  | finite (number : Double.Finite)
  deriving DecidableEq

namespace Double

def Finite.magnitude (x : Finite) : Nat :=
  x.mantissa <<< x.exponent

def Finite.units (x : Finite) : Int :=
  if x.negative then -(x.magnitude : Int) else x.magnitude

def zero (negative : Bool) : Double :=
  .finite ⟨negative, 0, 0, by decide, by decide, .inl rfl⟩

instance : Inhabited Double :=
  ⟨zero false⟩

def isFinite : Double → Bool
  | finite _ => true
  | _ => false

def isNegative : Double → Bool
  | nan => false
  | infinite negative => negative
  | finite x => x.negative

def neg : Double → Double
  | nan => nan
  | infinite negative => infinite !negative
  | finite x => finite { x with negative := !x.negative }

/-- The nearest whole number to `numerator / denominator`, a half going to the even neighbour. -/
def roundHalfEven (numerator denominator : Nat) : Nat :=
  let quotient := numerator / denominator
  let twice := 2 * (numerator % denominator)
  if twice < denominator then quotient
  else if denominator < twice then quotient + 1
  else quotient + quotient % 2

/-- The mantissa of at most `bits` bits and the exponent nearest to `numerator / denominator` units. -/
def roundToBits (bits numerator denominator : Nat) : Nat × Nat :=
  let exponent := (numerator / denominator).log2 + 1 - bits
  let mantissa := roundHalfEven numerator (denominator <<< exponent)
  if mantissa < 1 <<< bits then (mantissa, exponent) else (mantissa / 2, exponent + 1)

/-- The number with a given sign, mantissa and exponent, an infinity when there is none. -/
def ofParts (negative : Bool) (mantissa exponent : Nat) : Double :=
  if h : mantissa < 1 <<< 53 ∧ exponent ≤ 2045 ∧ (exponent = 0 ∨ 1 <<< 52 ≤ mantissa) then
    finite ⟨negative, mantissa, exponent, h.1, h.2.1, h.2.2⟩
  else
    infinite negative

/-- The number nearest to `numerator / denominator` units, ties to the even mantissa. -/
def ofUnits (negative : Bool) (numerator denominator : Nat) : Double :=
  let (mantissa, exponent) := roundToBits 53 numerator denominator
  ofParts negative mantissa exponent

def ofRatio (negative : Bool) (numerator denominator : Nat) : Double :=
  ofUnits negative (numerator <<< 1074) denominator

def ofInt (i : Int) : Double :=
  ofRatio (decide (i < 0)) i.natAbs 1

/-- The decimal `digits * 10 ^ exponent`. Powers far outside the range are settled by the digit count alone. -/
def decimalRatio (digits : Nat) (exponent : Int) : Nat × Nat :=
  if 0 ≤ exponent then (digits * Nat.pow 10 exponent.toNat, 1)
  else (digits, Nat.pow 10 (-exponent).toNat)

def digitCount (n : Nat) : Nat :=
  if n = 0 then 0 else digitCount (n / 10) + 1

def ofDecimal (negative : Bool) (digits : Nat) (exponent : Int) : Double :=
  let point := (digitCount digits : Int) + exponent
  if digits = 0 ∨ point < -330 then zero negative
  else if 310 < point then infinite negative
  else
    let (numerator, denominator) := decimalRatio digits exponent
    ofRatio negative numerator denominator

/-- The first count of units beyond every finite number. -/
def beyond : Int := Int.ofNat (1 <<< 2098)

/-- Where a number stands on the line of units; the infinities stand just beyond the finite numbers. -/
def position : Double → Option Int
  | nan => none
  | infinite negative => some (if negative then -beyond else beyond)
  | finite x => some x.units

/-- Equality of values: the zeros are equal, nothing equals not-a-number. -/
def same (x y : Double) : Bool :=
  match x.position, y.position with
  | some p, some q => p = q
  | _, _ => false

def less (x y : Double) : Bool :=
  match x.position, y.position with
  | some p, some q => p < q
  | _, _ => false

def atMost (x y : Double) : Bool :=
  match x.position, y.position with
  | some p, some q => p ≤ q
  | _, _ => false

/-- The larger of two numbers; not-a-number gives way to the other one. -/
def max (x y : Double) : Double :=
  match x, y with
  | nan, y => y
  | x, nan => x
  | x, y => if x.less y then y else x

/-- The smaller of two numbers; not-a-number gives way to the other one. -/
def min (x y : Double) : Double :=
  match x, y with
  | nan, y => y
  | x, nan => x
  | x, y => if y.less x then y else x

def Finite.mul (x y : Finite) : Double :=
  ofUnits (x.negative != y.negative) (x.magnitude * y.magnitude) (1 <<< 1074)

def Finite.div (x y : Finite) : Double :=
  if y.mantissa = 0 then (if x.mantissa = 0 then nan else infinite (x.negative != y.negative))
  else ofUnits (x.negative != y.negative) (x.magnitude <<< 1074) y.magnitude

theorem same_comm (x y : Double) : x.same y = y.same x := by
  unfold same
  cases x.position <;> cases y.position <;> simp [eq_comm]

theorem same_self_iff (x : Double) : x.same x = true ↔ x ≠ nan := by
  cases x <;> simp [same, position]

end Double

/-- A binary32 number, held as the binary64 number it widens to. -/
structure Single where
  widened : Double
  deriving DecidableEq

def Single.ofDecimal (negative : Bool) (digits : Nat) (exponent : Int) : Single :=
  let point := (Double.digitCount digits : Int) + exponent
  if digits = 0 ∨ point < -60 then ⟨.zero negative⟩
  else if 60 < point then ⟨.infinite negative⟩
  else
    let (numerator, denominator) := Double.decimalRatio digits exponent
    let (mantissa, binary) := Double.roundToBits 24 (numerator <<< 149) denominator
    if binary ≤ 253 then ⟨Double.ofUnits negative (mantissa <<< (binary + 925)) 1⟩
    else ⟨.infinite negative⟩

end FieldRules
