import FieldRules.Double.Basic

/-!
# Reading numbers

Decimal texts with an optional sign, point and exponent, and the names of the special values in any case.
-/
set_option autoImplicit false

namespace FieldRules

/-- A decimal numeral split into its parts: `digits * 10 ^ exponent` under a sign. -/
structure Numeral where
  negative : Bool
  digits : Nat
  exponent : Int
  deriving DecidableEq

namespace Numeral

def digitValue (c : Char) : Nat :=
  c.toNat - '0'.toNat

def valueFrom (start : Nat) (digits : List Char) : Nat :=
  digits.foldl (fun n c => 10 * n + digitValue c) start

def value (digits : List Char) : Nat :=
  valueFrom 0 digits

def isSign (c : Char) : Bool :=
  c == '+' || c == '-'

/-- Splits off a leading sign; the first part tells whether it was a minus. -/
def splitSign : List Char → Bool × List Char
  | '-' :: rest => (true, rest)
  | '+' :: rest => (false, rest)
  | rest => (false, rest)

/-- The exponent that follows the digits: nothing, or `e` with an optionally signed number. -/
def exponent? : List Char → Option Int
  | [] => some 0
  | c :: rest =>
    if c == 'e' || c == 'E' then
      let (negative, digits) := splitSign rest
      if digits.isEmpty || !digits.all Char.isDigit then none
      else
        let size : Int := value digits
        some (if negative then -size else size)
    else none

/-- Digits with an optional point and an optional exponent; at least one digit stands beside the point. -/
def unsigned? (negative : Bool) (text : List Char) : Option Numeral :=
  let whole := text.takeWhile Char.isDigit
  let (fraction, rest) :=
    match text.dropWhile Char.isDigit with
    | '.' :: rest => (rest.takeWhile Char.isDigit, rest.dropWhile Char.isDigit)
    | rest => ([], rest)
  if whole.isEmpty && fraction.isEmpty then none
  else (exponent? rest).map fun exponent =>
    ⟨negative, valueFrom (value whole) fraction, exponent - fraction.length⟩

end Numeral

inductive NumberText where
  | decimal (numeral : Numeral)
  | infinity (negative : Bool)
  | notANumber
  deriving DecidableEq

/-- An optional sign, then a decimal numeral or, in any case, `inf`, `infinity` or `nan`. -/
def NumberText.read? (text : String) : Option NumberText :=
  let (negative, rest) := Numeral.splitSign text.toList
  let word := String.ofList (rest.map Char.toLower)
  if word == "inf" || word == "infinity" then some (.infinity negative)
  else if word == "nan" then some .notANumber
  else (Numeral.unsigned? negative rest).map .decimal

def NumberText.toDouble : NumberText → Double
  | .decimal n => .ofDecimal n.negative n.digits n.exponent
  | .infinity negative => .infinite negative
  | .notANumber => .nan

def NumberText.toSingle : NumberText → Single
  | .decimal n => .ofDecimal n.negative n.digits n.exponent
  | .infinity negative => ⟨.infinite negative⟩
  | .notANumber => ⟨.nan⟩

def Double.read? (text : String) : Option Double :=
  (NumberText.read? text).map NumberText.toDouble

def Single.read? (text : String) : Option Single :=
  (NumberText.read? text).map NumberText.toSingle

end FieldRules
