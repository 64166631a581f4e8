import FieldRules.Document.Basic
import FieldRules.Double.Reader
import FieldRules.IntKind

/-!
# Numbers of JSON

An integer of at most 64 bits stays one. Any other number is read in two roundings: of its first 64 bits
of digits, then of one scaling by a power of ten.
-/
set_option autoImplicit false

namespace FieldRules.Json

def gather (start : Nat) : List Char → Nat × Nat
  | [] => (start, 0)
  | c :: rest =>
    let next := 10 * start + Numeral.digitValue c
    if next < UInt64.size then gather next rest else (start, rest.length + 1)

def power (n : Nat) : Double :=
  Double.ofInt (Nat.pow 10 n)

def times : Double → Double → Option Double
  | .finite x, .finite y =>
    let product := x.mul y
    if product.isFinite then some product else none
  | _, _ => none

def quotient : Double → Double → Option Double
  | .finite x, .finite y => some (x.div y)
  | _, _ => none

/-- A count times a power of ten. Beyond `1e-308` the scaling takes a second step; beyond two steps
nothing is left of any 64-bit count. -/
def scale? (count : Nat) (exponent : Int) : Option Double :=
  let x := Double.ofInt count
  if count = 0 ∨ exponent < -616 then some (Double.zero false)
  else if 308 < exponent then none
  else if 0 ≤ exponent then times x (power exponent.toNat)
  else if -308 ≤ exponent then quotient x (power (-exponent).toNat)
  else do
    let small ← quotient x (power 308)
    quotient small (power (-exponent - 308).toNat)

structure Spelled where
  negative : Bool
  whole : List Char
  fraction : List Char
  /-- The sign and the digits after `e`. -/
  exponent : Option (Bool × List Char)

/-- Splits a numeral by the grammar of JSON: no needless leading zero, digits on both sides of a point. -/
def Spelled.read? (s : List Char) : Option Spelled := do
  let (negative, s) := match s with
    | '-' :: rest => (true, rest)
    | rest => (false, rest)
  let whole := s.takeWhile Char.isDigit
  if whole.isEmpty || (whole.head? == some '0' && whole.length != 1) then none
  let (fraction, s) ← match s.dropWhile Char.isDigit with
    | '.' :: rest =>
      let digits := rest.takeWhile Char.isDigit
      if digits.isEmpty then none else some (digits, rest.dropWhile Char.isDigit)
    | rest => some ([], rest)
  match s with
  | [] => some ⟨negative, whole, fraction, none⟩
  | c :: rest =>
    if c == 'e' || c == 'E' then
      let (minus, digits) := Numeral.splitSign rest
      if digits.isEmpty || !digits.all Char.isDigit then none
      else some ⟨negative, whole, fraction, some (minus, digits)⟩
    else none

/-- The node of a numeral; one whose size is out of range has no value. -/
def Spelled.node (n : Spelled) : Document :=
  let (count, dropped) := gather 0 n.whole
  let (count', left) := gather count n.fraction
  if n.fraction.isEmpty && n.exponent.isNone && dropped == 0 then
    if !n.negative then .int count
    else if 1 ≤ count && (IntKind.signed 64).holds (-(count : Int)) then .int (-(count : Int))
    else .float (Double.ofInt count).neg
  else
    let size : Int := match n.exponent with
      | none => 0
      | some (minus, digits) => if minus then -(Numeral.value digits : Int) else Numeral.value digits
    match scale? count' (dropped - (n.fraction.length - left : Nat) + size) with
    | some x => .float (if n.negative then x.neg else x)
    | none => .irregular

end FieldRules.Json
