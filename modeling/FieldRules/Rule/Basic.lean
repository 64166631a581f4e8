import FieldRules.Value.Basic

/-!
# Rules and constraints

A rule is what a field must satisfy. A constraint is a rule as it is attached to a field: with a
message, a severity and a group.
-/
set_option autoImplicit false

namespace FieldRules

inductive Severity where
  | error
  | warning
  | info
  deriving DecidableEq

namespace Severity

instance : Inhabited Severity :=
  ⟨error⟩

def all : List Severity :=
  [error, warning, info]

def name : Severity → String
  | error => "error"
  | warning => "warning"
  | info => "info"

def ofName? (name : String) : Option Severity :=
  all.find? fun s => s.name == name

theorem ofName?_name (s : Severity) : ofName? s.name = some s := by
  cases s <;> rfl

/-- The severity that an attribute spells, in any case; `warn` is short for `warning`. -/
def read? (text : String) : Option Severity :=
  let word := text.map Char.toLower
  if word == "warn" then some warning else ofName? word

end Severity

/-- The message of a constraint: a template, or a key of the message catalog. -/
inductive MessageSource where
  | literal (template : String)
  | resource (key : String)
  deriving DecidableEq

inductive Rule where
  | required
  | length (min max : UInt64)
  | range (min max : Double)
  | email
  | url
  | creditCard
  | phone
  | fileExtension (extensions : List String)
  | futureDate
  | allowedValues (values : List String)
  | requiredIf (other : String) (target : Value)
  | conditionalRange (other : String) (target : Value) (min max : Double)
  deriving DecidableEq

namespace Rule

def name : Rule → String
  | required => "required"
  | length _ _ => "string_length"
  | range _ _ => "range"
  | email => "email_format"
  | url => "url_format"
  | creditCard => "credit_card_format"
  | phone => "phone_format"
  | fileExtension _ => "file_extension"
  | futureDate => "future_date"
  | allowedValues _ => "allowed_values"
  | requiredIf _ _ => "required_if"
  | conditionalRange _ _ _ _ => "conditional_range"

def sibling? : Rule → Option String
  | requiredIf other _ => some other
  | conditionalRange other _ _ _ => some other
  | _ => none

def isTextual : Rule → Bool
  | length _ _ | email | url | creditCard | phone | fileExtension _ => true
  | _ => false

def isNumeric : Rule → Bool
  | range _ _ | conditionalRange _ _ _ _ => true
  | _ => false

/-- Equality of declared data: numbers are compared as numbers. -/
def same : Rule → Rule → Bool
  | range a b, range c d => a.same c && b.same d
  | requiredIf other v, requiredIf other' v' => other == other' && v.same v'
  | conditionalRange other v a b, conditionalRange other' v' c d =>
    other == other' && v.same v' && a.same c && b.same d
  | r, r' => r == r'

end Rule

structure Constraint where
  rule : Rule
  message : Option MessageSource := none
  severity : Severity := .error
  group : Option String := none
  deriving DecidableEq

namespace Constraint

def same (c c' : Constraint) : Bool :=
  c.rule.same c'.rule && c.message == c'.message && c.severity == c'.severity && c.group == c'.group

/-- Whether the constraint takes part: one without a group always does, one with a group only when
that group is the active one. -/
def isActive (c : Constraint) (active : Option String) : Bool :=
  match c.group with
  | none => true
  | some group => active == some group

end Constraint
end FieldRules
