import FieldRules.Description.Basic
import FieldRules.Services
import FieldRules.Value.Document
import FieldRules.Value.Shape

/-!
# Descriptions of views

What rules see of a typed value, and what a service holds.
-/
set_option autoImplicit false

namespace FieldRules.Description

instance : Describe Typed where
  describe t :=
    members "value is_null as_str as_f64 as_datetime display_string"
      [describe (FieldValue.toValue t), describe (FieldValue.isNull t), describe (FieldValue.text? t),
        describe (FieldValue.number? t), describe (FieldValue.instant? t),
        describe (FieldValue.display? t)]

def views (v : Value) : Document :=
  members
    ("value is_null as_str as_f64 as_datetime display_string type_name as_bool display " ++
      "to_json_text serde_text")
    [describe v, describe v.isNull, describe v.text?, describe v.number?, describe v.instant?,
      describe v.display?, describe v.kindName, describe v.bool?, describe v.display,
      .text (Json.print v.toPlain), .text (Json.print v.toDocument)]

def service : (t : ServiceType) → t.Carrier → Document
  | .text, (s : String) => describe s
  | .number, (n : UInt32) => describe n.toNat
  | .flag, (b : Bool) => describe b
  | .names, (l : List String) => describe l

end FieldRules.Description
