import FieldRules.Source.Type
import FieldRules.Value.Basic

/-!
# Declared types of fields

The type that rules see in the type a field is written with: its last name, below references, parentheses
and boxes. An optional type makes a field nullable.
-/
set_option autoImplicit false

namespace FieldRules.Derive

open Source

def typeOfName (name : String) : FieldType :=
  if ["String", "str", "Cow"].contains name then .string
  else if ["i8", "i16", "i32", "i64", "i128", "isize", "u8", "u16", "u32", "u64", "u128",
      "usize"].contains name then .int
  else if ["f32", "f64"].contains name then .float
  else if name == "bool" then .bool
  else if ["DateTime", "NaiveDate", "NaiveDateTime"].contains name then .date
  else .other

def fieldType : TypeExpr → FieldType × Bool
  | .reference inner => fieldType inner
  | .grouped inner => fieldType inner
  | .paren inner => fieldType inner
  | .path name [some inner] =>
    if name == "Option" then ((fieldType inner).1, true)
    else if name == "Box" then fieldType inner
    else (typeOfName name, false)
  | .path name _ => (typeOfName name, false)
  | .other => (.other, false)

end FieldRules.Derive
