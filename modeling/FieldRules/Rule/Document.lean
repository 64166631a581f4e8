import FieldRules.Document.Members
import FieldRules.Rule.Basic
import FieldRules.Value.Document

/-!
# Rules and constraints in documents

A rule is a map with its name under `kind` and its parameters beside it. A constraint adds its message,
severity and group to the map of its rule.
-/
set_option autoImplicit false

namespace FieldRules

open Document (unlessNone)

namespace Severity

def toDocument (s : Severity) : Document :=
  .text s.name

def ofDocument? (form : VariantForm) (d : Document) : Option Severity :=
  (d.unitVariant? form).bind ofName?

end Severity

namespace MessageSource

def toDocument : MessageSource → Document
  | literal template => .map [("literal", .text template)]
  | resource key => .map [("resource", .text key)]

def ofDocument? (form : VariantForm) (d : Document) : Option MessageSource :=
  match d.variant? form with
  | some ("literal", content) => content.text?.map literal
  | some ("resource", content) => content.text?.map resource
  | _ => none

end MessageSource

namespace Rule

def texts (items : List String) : Document :=
  .list (items.map .text)

def parameters : Rule → Members
  | length min max => [("min", .size min), ("max", .size max)]
  | range min max => [("min", .number min), ("max", .number max)]
  | fileExtension extensions => [("extensions", texts extensions)]
  | allowedValues values => [("values", texts values)]
  | requiredIf other target => [("other", .text other), ("target", target.toDocument)]
  | conditionalRange other target min max =>
    [("other", .text other), ("target", target.toDocument), ("min", .number min), ("max", .number max)]
  | _ => []

def members (r : Rule) : Members :=
  ("kind", .text r.name) :: r.parameters

def once (names : List String) (m : Members) : Option Members :=
  (Document.map m).members? names

/-- The rule of a name with the parameters it needs; other members are passed over. -/
def ofName? (name : String) (m : Members) : Option Rule :=
  match name with
  | "required" => some required
  | "string_length" => do
    let m ← once ["min", "max"] m
    let min ← m.orElse "min" Document.size? 0
    let max ← m.required "max" Document.size?
    some (length min max)
  | "range" => do
    let m ← once ["min", "max"] m
    let min ← m.required "min" Document.double?
    let max ← m.required "max" Document.double?
    some (range min max)
  | "email_format" => some email
  | "url_format" => some url
  | "credit_card_format" => some creditCard
  | "phone_format" => some phone
  | "file_extension" => do
    let m ← once ["extensions"] m
    let extensions ← m.required "extensions" (Document.items? Document.text?)
    some (fileExtension extensions)
  | "future_date" => some futureDate
  | "allowed_values" => do
    let m ← once ["values"] m
    let values ← m.required "values" (Document.items? Document.text?)
    some (allowedValues values)
  | "required_if" => do
    let m ← once ["other", "target"] m
    let other ← m.required "other" Document.text?
    let target ← m.required "target" Value.ofDocument?
    some (requiredIf other target)
  | "conditional_range" => do
    let m ← once ["other", "target", "min", "max"] m
    let other ← m.required "other" Document.text?
    let target ← m.required "target" Value.ofDocument?
    let min ← m.required "min" Document.double?
    let max ← m.required "max" Document.double?
    some (conditionalRange other target min max)
  | _ => none

def names : List String :=
  ["required", "string_length", "range", "email_format", "url_format", "credit_card_format",
    "phone_format", "file_extension", "future_date", "allowed_values", "required_if",
    "conditional_range"]

def nameOrPosition? : Document → Option String
  | .text name => some name
  | .int i => if 0 ≤ i then names[i.toNat]? else none
  | _ => none

/-- The rule that the entries of a map describe. All of them must have a value, read or not. -/
def ofMembers? (readName : Document → Option String) (m : Members) : Option Rule := do
  let m ← Document.resolvedEntries? m
  let m ← once ["kind"] m
  let name ← m.required "kind" readName
  ofName? name m

def toDocument (r : Rule) : Document :=
  .map r.members

def ofDocument? : Document → Option Rule
  | .map entries => ofMembers? Document.text? entries
  | _ => none

end Rule

namespace Constraint

def ownMembers : List String :=
  ["message", "severity", "group"]

def members (c : Constraint) : Members :=
  c.rule.members ++ unlessNone "message" MessageSource.toDocument c.message ++
    [("severity", c.severity.toDocument)] ++ unlessNone "group" .text c.group

def toDocument (c : Constraint) : Document :=
  .map c.members

def ofMembers? (form : VariantForm) (m : Members) : Option Constraint := do
  let own ← Rule.once ownMembers m
  let message ← own.optional "message" (MessageSource.ofDocument? form)
  let severity ← own.orElse "severity" (Severity.ofDocument? form) .error
  let group ← own.optional "group" Document.text?
  let rule ← Rule.ofMembers? Rule.nameOrPosition? (m.filter fun e => !ownMembers.contains e.1)
  some { rule, message, severity, group }

def ofDocument? (form : VariantForm) (d : Document) : Option Constraint :=
  d.map?.bind (ofMembers? form)

end Constraint
end FieldRules
