import FieldRules.Keyed
import FieldRules.Rule.Verdict

/-!
# Messages

Templates with named slots, the default template of each rule, and the message of a failed constraint.
-/
set_option autoImplicit false

namespace FieldRules

abbrev Catalog := Keyed String

namespace Message

abbrev Arguments := List (String × String)

def slot (name : String) : String :=
  "\x7b" ++ name ++ "\x7d"

/-- What a closed slot is replaced by: the first argument of its name, or itself. -/
def fill (arguments : Arguments) (name : List Char) : List Char :=
  match arguments.lookup (String.ofList name) with
  | some value => value.toList
  | none => '{' :: name ++ ['}']

/-- One pass over a template; `slot` holds the name read so far, in reverse, inside a slot. -/
def renderFrom (arguments : Arguments) : Option (List Char) → List Char → List Char
  | none, [] => []
  | some name, [] => '{' :: name.reverse
  | none, c :: rest =>
    if c = '{' then renderFrom arguments (some []) rest else c :: renderFrom arguments none rest
  | some name, c :: rest =>
    if c = '}' then fill arguments name.reverse ++ renderFrom arguments none rest
    else renderFrom arguments (some (c :: name)) rest

/-- The template with its slots filled. Unknown slots and a brace that is not closed stay as they are. -/
def render (template : String) (arguments : Arguments) : String :=
  String.ofList (renderFrom arguments none template.toList)

def defaultTemplate : Rule → String
  | .required => "The " ++ slot "field" ++ " field is required."
  | .length min _ =>
    if min = 0 then
      "The field " ++ slot "field" ++ " must be a string with a maximum length of " ++ slot "max" ++ "."
    else
      "The field " ++ slot "field" ++ " must be a string with a minimum length of " ++ slot "min" ++
        " and a maximum length of " ++ slot "max" ++ "."
  | .range _ _ =>
    "The field " ++ slot "field" ++ " must be between " ++ slot "min" ++ " and " ++ slot "max" ++ "."
  | .email => "The " ++ slot "field" ++ " field is not a valid e-mail address."
  | .url => "The " ++ slot "field" ++ " field is not a valid fully-qualified http or https URL."
  | .creditCard => "The " ++ slot "field" ++ " field is not a valid credit card number."
  | .phone => "The " ++ slot "field" ++ " field is not a valid phone number."
  | .fileExtension _ =>
    "The " ++ slot "field" ++ " field only accepts files with the following extensions: " ++
      slot "extensions"
  | .futureDate => "The " ++ slot "field" ++ " field must be a date in the future."
  | .allowedValues _ =>
    "The " ++ slot "field" ++ " field must be one of the following values: " ++ slot "values" ++ "."
  | .requiredIf _ _ =>
    "The " ++ slot "field" ++ " field is required when " ++ slot "other" ++ " is " ++ slot "target" ++ "."
  | .conditionalRange _ _ _ _ =>
    "The field " ++ slot "field" ++ " must be between " ++ slot "min" ++ " and " ++ slot "max" ++
      " when " ++ slot "other" ++ " is " ++ slot "target" ++ "."

def sizeText (n : UInt64) : String :=
  toString n.toNat

def ruleArguments : Rule → Arguments
  | .length min max => [("min", sizeText min), ("max", sizeText max)]
  | .range min max => [("min", min.plain), ("max", max.plain)]
  | .fileExtension extensions =>
    [("extensions", ", ".intercalate (extensions.map fun e => "." ++ Verdict.extensionName e))]
  | .allowedValues values => [("values", ", ".intercalate values)]
  | .requiredIf other target => [("other", other), ("target", target.display)]
  | .conditionalRange other target min max =>
    [("other", other), ("target", target.display), ("min", min.plain), ("max", max.plain)]
  | _ => []

def arguments (r : Rule) (label : String) : Arguments :=
  ("field", label) :: ruleArguments r

def defaultText (r : Rule) (label : String) : String :=
  render (defaultTemplate r) (arguments r label)

/-- A message by key: the template of the catalog, or the given text when it has none. -/
def resolve (catalog : Option Catalog) (key : String) (arguments : Arguments) (fallback : String) :
    String :=
  match catalog.bind (·.get? key) with
  | some template => render template arguments
  | none => fallback

end Message

namespace Constraint

def fixedMessage (c : Constraint) (label : String) : String :=
  match c.message with
  | some (.literal template) => Message.render template (Message.arguments c.rule label)
  | _ => Message.defaultText c.rule label

def failureMessage (c : Constraint) (label : String) (catalog : Option Catalog) : String :=
  match c.message with
  | some (.resource key) =>
    Message.resolve catalog key (Message.arguments c.rule label) (Message.defaultText c.rule label)
  | _ => c.fixedMessage label

end Constraint
end FieldRules
