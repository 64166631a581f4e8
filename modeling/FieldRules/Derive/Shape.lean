import FieldRules.Source.Type
import FieldRules.Value.Shape

/-!
# Shapes of written types

The shape of the values that a field can hold, read off the type it is written with.
-/
set_option autoImplicit false

namespace FieldRules.Derive

open Source

def intKind? (name : String) : Option IntKind :=
  [("i8", .signed 8), ("i16", .signed 16), ("i32", .signed 32), ("i64", .signed 64), ("i128", .signed 128),
    ("isize", .signed 64), ("u8", .unsigned 8), ("u16", .unsigned 16), ("u32", .unsigned 32),
    ("u64", .unsigned 64), ("u128", .unsigned 128), ("usize", .unsigned 64)].lookup name

def builtIn? (name : String) : Option Shape :=
  [("String", .text), ("bool", .bool), ("f32", .single), ("f64", .double), ("NaiveDate", .day),
    ("NaiveDateTime", .localTime), ("DateTime", .instant), ("Value", .value)].lookup name <|>
    (intKind? name).map .int

/-- The shape of a type. A type that is not built in is one of the user's own. -/
def shapeOf? : TypeExpr → Option Shape
  | .reference _ => none
  | .grouped inner => shapeOf? inner
  | .paren inner => shapeOf? inner
  | .path name [some inner] =>
    if name == "Option" then (shapeOf? inner).map .option
    else if name == "Box" then (shapeOf? inner).map .boxed
    else some ((builtIn? name).getD .custom)
  | .path name _ => some ((builtIn? name).getD .custom)
  | .other => none

end FieldRules.Derive
