import FieldRules.Text.Identifier.Table
import FieldRules.Text.Ranges

/-!
# Names

A name starts with a letter or underscore and goes on with letters, digits, marks and underscores.
-/
set_option autoImplicit false

namespace FieldRules.Text

def startsName (c : Char) : Bool :=
  c.isAlpha || c == '_' || inRanges NameTable.start c.toNat

def continuesName (c : Char) : Bool :=
  c.isAlphanum || c == '_' || inRanges NameTable.continuing c.toNat

end FieldRules.Text
