import FieldRules.Declaration.Document
import FieldRules.Summary

/-!
# Summaries in documents
-/
set_option autoImplicit false

namespace FieldRules

open Document (unlessNone unlessEmpty orNull)

namespace Format

def toDocument (f : Format) : Document :=
  .text f.name

def ofDocument? (form : VariantForm) (d : Document) : Option Format :=
  (d.unitVariant? form).bind ofName?

end Format

namespace Condition

def names : List String :=
  ["other", "target", "required", "numeric_min", "numeric_max"]

def toDocument (c : Condition) : Document :=
  .map ([("other", .text c.other), ("target", c.target.toDocument), ("required", .bool c.required)] ++
    unlessNone "numeric_min" .number c.numericMin ++ unlessNone "numeric_max" .number c.numericMax)

def ofDocument? (d : Document) : Option Condition := do
  let m ← d.members? names
  let other ← m.required "other" Document.text?
  let target ← m.required "target" fun d => d.resolved?.bind Value.ofDocument?
  let required ← m.required "required" Document.bool?
  let numericMin ← m.optional "numeric_min" Document.double?
  let numericMax ← m.optional "numeric_max" Document.double?
  some { other, target, required, numericMin, numericMax }

end Condition

namespace FieldSummary

def names : List String :=
  ["name", "display_name", "field_type", "nullable", "has_required", "string_min", "string_max",
    "numeric_min", "numeric_max", "formats", "allowed_values", "file_extensions", "conditions", "groups"]

def toDocument (s : FieldSummary) : Document :=
  .map (
    [("name", .text s.name), ("display_name", .text s.displayName),
      ("field_type", s.fieldType.toDocument), ("nullable", .bool s.nullable),
      ("has_required", .bool s.hasRequired), ("string_min", orNull .size s.stringMin),
      ("string_max", orNull .size s.stringMax), ("numeric_min", orNull .number s.numericMin),
      ("numeric_max", orNull .number s.numericMax)] ++
    unlessEmpty "formats" Format.toDocument s.formats ++
    unlessEmpty "allowed_values" .text s.allowedValues ++
    unlessEmpty "file_extensions" .text s.fileExtensions ++
    unlessEmpty "conditions" Condition.toDocument s.conditions ++
    unlessEmpty "groups" .text s.groups)

def ofDocument? (form : VariantForm) (d : Document) : Option FieldSummary := do
  let m ← d.members? names
  let name ← m.required "name" Document.text?
  let displayName ← m.required "display_name" Document.text?
  let fieldType ← m.required "field_type" (FieldType.ofDocument? form)
  let nullable ← m.required "nullable" Document.bool?
  let hasRequired ← m.required "has_required" Document.bool?
  let stringMin ← m.optional "string_min" Document.size?
  let stringMax ← m.optional "string_max" Document.size?
  let numericMin ← m.optional "numeric_min" Document.double?
  let numericMax ← m.optional "numeric_max" Document.double?
  let formats ← m.orElse "formats" (Document.items? (Format.ofDocument? form)) []
  let allowedValues ← m.orElse "allowed_values" (Document.items? Document.text?) []
  let fileExtensions ← m.orElse "file_extensions" (Document.items? Document.text?) []
  let conditions ← m.orElse "conditions" (Document.items? Condition.ofDocument?) []
  let groups ← m.orElse "groups" (Document.items? Document.text?) []
  some { name, displayName, fieldType, nullable, hasRequired, stringMin, stringMax, numericMin,
         numericMax, formats, allowedValues, fileExtensions, conditions, groups }

end FieldSummary

namespace Summary

def names : List String :=
  ["model", "fields"]

def toDocument (s : Summary) : Document :=
  .map [("model", .text s.model), ("fields", .list (s.fields.map FieldSummary.toDocument))]

def ofDocument? (form : VariantForm) (d : Document) : Option Summary := do
  let m ← d.members? names
  let model ← m.required "model" Document.text?
  let fields ← m.required "fields" (Document.items? (FieldSummary.ofDocument? form))
  some { model, fields }

end Summary
end FieldRules
