import FieldRules.Declaration.Basic
import FieldRules.Rule.Document

/-!
# Declarations in documents

The stored form of a declaration. Members that have their usual value may be left out.
-/
set_option autoImplicit false

namespace FieldRules

open Document (unlessNone unlessEmpty)

namespace Directive

def names : List String :=
  ["trim", "upper", "lower"]

def toDocument (d : Directive) : Document :=
  .map [("trim", .bool d.trim), ("upper", .bool d.upper), ("lower", .bool d.lower)]

def ofDocument? (d : Document) : Option Directive := do
  let m ← d.members? names
  let trim ← m.orElse "trim" Document.bool? false
  let upper ← m.orElse "upper" Document.bool? false
  let lower ← m.orElse "lower" Document.bool? false
  some ⟨trim, upper, lower⟩

end Directive

namespace FieldType

def toDocument (t : FieldType) : Document :=
  .text t.name

def ofDocument? (form : VariantForm) (d : Document) : Option FieldType :=
  (d.unitVariant? form).bind ofName?

end FieldType

namespace ValidatorRef

def names : List String :=
  ["name", "is_async"]

def toDocument (v : ValidatorRef) : Document :=
  .map [("name", .text v.name), ("is_async", .bool v.isAsync)]

def ofDocument? (d : Document) : Option ValidatorRef := do
  let m ← d.members? names
  let name ← m.required "name" Document.text?
  let isAsync ← m.orElse "is_async" Document.bool? false
  some { name, isAsync }

end ValidatorRef

namespace FieldDeclaration

def names : List String :=
  ["name", "field_type", "nullable", "display_name", "constraints", "sanitize", "custom_validators"]

def toDocument (f : FieldDeclaration) : Document :=
  .map (
    [("name", .text f.name), ("field_type", f.fieldType.toDocument), ("nullable", .bool f.nullable)] ++
    unlessNone "display_name" .text f.displayName ++
    unlessEmpty "constraints" Constraint.toDocument f.constraints ++
    unlessNone "sanitize" Directive.toDocument f.sanitize ++
    unlessEmpty "custom_validators" ValidatorRef.toDocument f.validators)

def ofDocument? (form : VariantForm) (d : Document) : Option FieldDeclaration := do
  let m ← d.members? names
  let name ← m.required "name" Document.text?
  let fieldType ← m.orElse "field_type" (FieldType.ofDocument? form) .other
  let nullable ← m.orElse "nullable" Document.bool? false
  let displayName ← m.optional "display_name" Document.text?
  let constraints ← m.orElse "constraints" (Document.items? (Constraint.ofDocument? form)) []
  let sanitize ← m.optional "sanitize" Directive.ofDocument?
  let validators ← m.orElse "custom_validators" (Document.items? ValidatorRef.ofDocument?) []
  some { name, fieldType, nullable, displayName, constraints, sanitize, validators }

end FieldDeclaration

namespace ModelDeclaration

def names : List String :=
  ["name", "fields", "model_hook"]

def toDocument (d : ModelDeclaration) : Document :=
  .map ([("name", .text d.name), ("fields", .list (d.fields.map FieldDeclaration.toDocument))] ++
    unlessNone "model_hook" .text d.hook)

def ofDocument? (form : VariantForm) (d : Document) : Option ModelDeclaration := do
  let m ← d.members? names
  let name ← m.required "name" Document.text?
  let fields ← m.orElse "fields" (Document.items? (FieldDeclaration.ofDocument? form)) []
  let hook ← m.optional "model_hook" Document.text?
  some { name, fields, hook }

end ModelDeclaration
end FieldRules
