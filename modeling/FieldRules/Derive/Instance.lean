import FieldRules.Derive.Model
import FieldRules.Keyed
import FieldRules.Record.Basic
import FieldRules.Value.Shape

/-!
# Instances of annotated models

An instance holds a typed value for each field of its structure. It is a record of the fields that take
part, under their declared names.
-/
set_option autoImplicit false

namespace FieldRules.Derive

/-- Where the declared fields of a model are found in its instances. -/
structure FieldTable where
  model : String
  /-- The declared names, each with the name of its place. -/
  places : Keyed String

namespace FieldTable

def ofModel (m : AnnotatedModel) : FieldTable :=
  ⟨m.name, m.fields.map fun f => (f.name, f.ident.spelling)⟩

end FieldTable

structure Instance where
  table : FieldTable
  /-- The values by their places. -/
  fields : Keyed Typed

namespace Instance

def field? (i : Instance) (place : String) : Option Typed :=
  i.fields.get? place

def field (i : Instance) (place : String) : Typed :=
  (i.field? place).getD ⟨.value, Value.null⟩

def sanitizeAt (i : Instance) (place : String) (d : Directive) : Instance :=
  { i with fields := i.fields.map fun (name, t) =>
      (name, if name = place then FieldValue.sanitize d t else t) }

instance : Record Instance where
  modelName i := i.table.model
  fieldValue? i name := (i.table.places.get? name).map fun place => FieldValue.toValue (i.field place)
  sanitizeField? i name d := (i.table.places.get? name).map fun place => i.sanitizeAt place d

end Instance
end FieldRules.Derive
