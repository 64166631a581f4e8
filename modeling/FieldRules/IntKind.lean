/-!
# Integer types

The integers that a number of bits hold, with or without a sign.
-/
set_option autoImplicit false

namespace FieldRules

/-- The signed and unsigned integer types, by their bits. -/
inductive IntKind where
  | signed (bits : Nat)
  | unsigned (bits : Nat)
  deriving DecidableEq

namespace IntKind

def least : IntKind → Int
  | signed bits => -Int.ofNat (1 <<< (bits - 1))
  | unsigned _ => 0

def greatest : IntKind → Int
  | signed bits => Int.ofNat (1 <<< (bits - 1)) - 1
  | unsigned bits => Int.ofNat (1 <<< bits) - 1

def holds (k : IntKind) (i : Int) : Bool :=
  k.least ≤ i && i ≤ k.greatest

end IntKind

end FieldRules
