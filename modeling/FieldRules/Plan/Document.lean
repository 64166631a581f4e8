import FieldRules.Declaration.Document
import FieldRules.Plan

/-!
# Plans in documents
-/
set_option autoImplicit false

namespace FieldRules

open Document (orNull)

namespace PlannedField

def names : List String :=
  ["name", "label", "field_type", "nullable"]

def toDocument (f : PlannedField) : Document :=
  .map [("name", .text f.name), ("label", .text f.label), ("field_type", f.fieldType.toDocument),
    ("nullable", .bool f.nullable)]

def ofDocument? (form : VariantForm) (d : Document) : Option PlannedField := do
  let m ← d.members? names
  let name ← m.required "name" Document.text?
  let label ← m.required "label" Document.text?
  let fieldType ← m.required "field_type" (FieldType.ofDocument? form)
  let nullable ← m.required "nullable" Document.bool?
  some { name, label, fieldType, nullable }

end PlannedField

namespace SanitizeStep

def names : List String :=
  ["field", "directive"]

def toDocument (s : SanitizeStep) : Document :=
  .map [("field", .int s.field), ("directive", s.directive.toDocument)]

def ofDocument? (d : Document) : Option SanitizeStep := do
  let m ← d.members? names
  let field ← m.required "field" Document.index?
  let directive ← m.required "directive" Directive.ofDocument?
  some { field, directive }

end SanitizeStep

namespace ValidateStep

def toDocument : ValidateStep → Document
  | constraint field c sibling =>
    .map [("step", .text "constraint"), ("field", .int field), ("constraint", c.toDocument),
      ("dependency", orNull (fun (i : Nat) => .int i) sibling)]
  | custom field validator =>
    .map [("step", .text "custom"), ("field", .int field), ("validator", validator.toDocument)]

def ofDocument? (form : VariantForm) (d : Document) : Option ValidateStep := do
  let d ← d.resolved?
  let m ← d.members? ["step", "field", "constraint", "dependency", "validator"]
  let step ← m.required "step" Document.text?
  let field ← m.required "field" Document.index?
  match step with
  | "constraint" =>
    let c ← m.required "constraint" (Constraint.ofDocument? form)
    let sibling ← m.optional "dependency" Document.index?
    some (constraint field c sibling)
  | "custom" =>
    let validator ← m.required "validator" ValidatorRef.ofDocument?
    some (custom field validator)
  | _ => none

end ValidateStep

namespace Plan

def names : List String :=
  ["model", "fields", "sanitize", "validate", "model_hook"]

def toDocument (p : Plan) : Document :=
  .map [("model", .text p.model), ("fields", .list (p.fields.map PlannedField.toDocument)),
    ("sanitize", .list (p.sanitize.map SanitizeStep.toDocument)),
    ("validate", .list (p.validate.map ValidateStep.toDocument)), ("model_hook", orNull .text p.hook)]

def ofDocument? (form : VariantForm) (d : Document) : Option Plan := do
  let m ← d.members? names
  let model ← m.required "model" Document.text?
  let fields ← m.required "fields" (Document.items? (PlannedField.ofDocument? form))
  let sanitize ← m.required "sanitize" (Document.items? SanitizeStep.ofDocument?)
  let validate ← m.required "validate" (Document.items? (ValidateStep.ofDocument? form))
  let hook ← m.optional "model_hook" Document.text?
  some { model, fields, sanitize, validate, hook }

end Plan
end FieldRules
