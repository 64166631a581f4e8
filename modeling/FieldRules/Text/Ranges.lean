/-!
# Ranges of characters
-/
set_option autoImplicit false

namespace FieldRules.Text

def inRanges (ranges : List (Nat × Nat)) (n : Nat) : Bool :=
  ranges.any fun (first, last) => first ≤ n && n ≤ last

end FieldRules.Text
