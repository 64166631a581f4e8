import FieldRules.Declaration.Builder
import FieldRules.Document.Members
import FieldRules.Rule.Document
import FieldRules.Declaration.Document

/-!
# Reading descriptions

Values as they are described, and calls on fields, each a list of its name and its arguments.
-/
set_option autoImplicit false

namespace FieldRules

namespace Description

def number? (d : Document) : Option Double :=
  match d with
  | .text s => Double.read? s
  | d => d.double?

def size? (d : Document) : Option UInt64 :=
  match d with
  | .text s => s.toInt?.bind fun i => Document.size? (.int i)
  | d => d.size?

end Description

open Description

/-- The value that a description shows. An integer may also stand without its kind. -/
def Value.ofDescription? : Document → Option Value
  | .null => some .null
  | .bool b => some (.bool b)
  | .text s => some (.text s)
  | .int i => some (.ofInt i)
  | .map [(kind, .text s)] =>
    match kind with
    | "int" => s.toInt?.map .ofInt
    | "float" => (Double.read? s).map .float
    | "date" => (Instant.read? s).map .date
    | _ => none
  | _ => none

namespace FieldCall

def plainRule? (name : String) : Option Rule :=
  [("required", .required), ("email", .email), ("url", .url), ("credit_card", .creditCard),
    ("phone", .phone), ("future_date", .futureDate)].lookup name

def rule? : String → List Document → Option Rule
  | "length", [a, b] => do some (.length (← size? a) (← size? b))
  | "max_length", [a] => do some (.length 0 (← size? a))
  | "range", [a, b] => do some (.range (← number? a) (← number? b))
  | "file_extensions", [l] => do some (.fileExtension (← l.items? Document.text?))
  | "allowed_values", [l] => do some (.allowedValues (← l.items? Document.text?))
  | "required_if", [o, v] => do some (.requiredIf (← o.text?) (← Value.ofDescription? v))
  | "conditional_range", [o, v, a, b] => do
    some (.conditionalRange (← o.text?) (← Value.ofDescription? v) (← number? a) (← number? b))
  | name, [] => plainRule? name
  | _, _ => none

def modifier? (name : String) (argument : Document) : Option Modifier :=
  match name with
  | "message" => argument.text?.map .message
  | "message_key" => argument.text?.map .messageKey
  | "severity" => (argument.text?.bind Severity.ofName?).map .severity
  | "group" => argument.text?.map .group
  | _ => none

def call? : String → List Document → Option FieldCall
  | "nullable", [] => some .nullable
  | "display_name", [t] => t.text?.map .displayName
  | "constraint", [c] => (Constraint.ofDocument? .entry c).map .constraint
  | "custom", [t] => t.text?.map .custom
  | "custom_async", [t] => t.text?.map .customAsync
  | "sanitize", [s] => (Directive.ofDocument? s).map .sanitize
  | name, [a] => ((modifier? name a).map .modify).or ((rule? name [a]).map .rule)
  | name, arguments => (rule? name arguments).map .rule

def ofDescription? : Document → Option FieldCall
  | .list (.text name :: arguments) => call? name arguments
  | _ => none

end FieldCall
end FieldRules
