import FieldRules.Double.Digits

/-!
# Numbers as text

The plain form writes every digit position and no exponent, `Double.plain`. The compact form keeps a
decimal point or an exponent in every text, `Double.compact?`.
-/
set_option autoImplicit false

namespace FieldRules

namespace Decimal

def zeros (n : Nat) : List Char :=
  List.replicate n '0'

/-- All positions written out, with a point only between digits. -/
def positional (d : Decimal) : List Char :=
  if d.point ≤ 0 then '0' :: '.' :: zeros (-d.point).toNat ++ d.digits
  else if d.digits.length ≤ d.point.toNat then d.digits ++ zeros (d.point.toNat - d.digits.length)
  else d.digits.take d.point.toNat ++ '.' :: d.digits.drop d.point.toNat

/-- One digit before the point and a signed exponent, as in `1.5e+21`. -/
def scientific (d : Decimal) : List Char :=
  let exponent := d.point - 1
  let sign := if exponent < 0 then '-' else '+'
  let fraction := d.digits.drop 1
  d.digits.take 1 ++ (if fraction.isEmpty then [] else '.' :: fraction) ++
    'e' :: sign :: Nat.toDigits 10 exponent.natAbs

end Decimal

namespace Double

def signed (negative : Bool) (text : List Char) : String :=
  String.ofList (if negative then '-' :: text else text)

/-- The shortest digits in full positions: `18`, `0.0000001`, `-0`, `NaN`, `inf`. -/
def plain : Double → String
  | nan => "NaN"
  | infinite negative => signed negative ['i', 'n', 'f']
  | finite x =>
    signed x.negative (if x.mantissa = 0 then ['0'] else (x.shortest .up).positional)

/-- The shortest digits, positional from `1e-5` up to below `1e16`, always with a point or an exponent. -/
def compact? : Double → Option String
  | nan => none
  | infinite _ => none
  | finite x =>
    if x.mantissa = 0 then some (signed x.negative ['0', '.', '0'])
    else
      let d := x.shortest .even
      let text :=
        if -5 < d.point ∧ d.point ≤ 16 then
          let written := d.positional
          if written.contains '.' then written else written ++ ['.', '0']
        else d.scientific
      some (signed x.negative text)

end Double
end FieldRules
