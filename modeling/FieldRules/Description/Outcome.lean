import FieldRules.Description.Declaration
import FieldRules.Outcome

/-!
# Descriptions of outcomes
-/
set_option autoImplicit false

namespace FieldRules.Description

instance : Describe Entry where
  describe e :=
    members "field message severity" [describe e.field, describe e.message, describe e.severity]

instance : Describe Outcome := ⟨fun o => members "valid errors" [describe o.isValid, describe o.entries]⟩

end FieldRules.Description
