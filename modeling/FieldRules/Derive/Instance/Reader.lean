import FieldRules.Derive.Instance
import FieldRules.Derive.Shape
import FieldRules.Description.Reader
import FieldRules.Value.Reader

/-!
# Reading instances

An instance from a document with a member for each field, which is read as the type of the field.
-/
set_option autoImplicit false

namespace FieldRules.Derive

open Source

def scalarText? : Document → Option String
  | .null => none
  | .text s => some s
  | .int i => some (toString i)
  | .float x => some x.plain
  | .bool b => some (Value.boolText b)
  | _ => some ""

def typedOf? (type : TypeExpr) (d : Document) : Option Typed := do
  let shape ← shapeOf? type
  let own ← Value.ofDescription? d <|> some .null
  Typed.read? (fun _ => own) shape (scalarText? d)

def Instance.ofDocument? (m : AnnotatedModel) (fields : List Field) : Document → Option Instance
  | .map entries => do
    let values ← fields.mapM fun f =>
      (typedOf? f.type ((entries.lookup f.ident.text).getD .null)).map fun t => (f.ident.spelling, t)
    some ⟨.ofModel m, values⟩
  | _ => none

end FieldRules.Derive
