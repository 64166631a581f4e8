import FieldRules.Description.Declaration
import FieldRules.Summary

/-!
# Descriptions of plans and summaries
-/
set_option autoImplicit false

namespace FieldRules.Description

instance : Describe PlannedField where
  describe f :=
    members "name label field_type nullable"
      [describe f.name, describe f.label, describe f.fieldType, describe f.nullable]

instance : Describe SanitizeStep :=
  ⟨fun s => members "field directive" [describe s.field, describe s.directive]⟩

instance : Describe ValidateStep where
  describe
    | .constraint index c sibling =>
      members "step field constraint dependency"
        [.text "constraint", describe index, describe c, describe sibling]
    | .custom index v => members "step field validator" [.text "custom", describe index, describe v]

/-- A plan, with the number of steps of each field and the index that its name leads to. -/
instance : Describe Plan where
  describe p :=
    members
      "model fields sanitize validate model_hook has_async customs is_empty steps_per_field field_index"
      [describe p.model, describe p.fields, describe p.sanitize, describe p.validate, describe p.hook,
        describe p.hasAsync, describe (p.validators.map ValidatorRef.name), describe p.isEmpty,
        describe ((List.range p.fields.length).map fun i => (p.stepsFor i).length),
        describe (p.fields.map fun f => p.fieldIndex? f.name)]

instance : Describe Format := ⟨fun f => .text f.name⟩

instance : Describe Condition where
  describe c :=
    members "other target required numeric_min numeric_max"
      [describe c.other, describe c.target, describe c.required, describe c.numericMin,
        describe c.numericMax]

instance : Describe FieldSummary where
  describe f := .map [
    ("name", describe f.name), ("display_name", describe f.displayName),
    ("field_type", describe f.fieldType), ("nullable", describe f.nullable),
    ("has_required", describe f.hasRequired), ("string_min", describe f.stringMin),
    ("string_max", describe f.stringMax), ("numeric_min", describe f.numericMin),
    ("numeric_max", describe f.numericMax), ("format", describe f.formats.head?),
    ("formats", describe f.formats), ("allowed_values", describe f.allowedValues),
    ("file_extensions", describe f.fileExtensions), ("conditions", describe f.conditions),
    ("groups", describe f.groups)]

instance : Describe Summary := ⟨fun s => members "model fields" [describe s.model, describe s.fields]⟩

end FieldRules.Description
