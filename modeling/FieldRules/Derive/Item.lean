import FieldRules.Derive.Attribute
import FieldRules.Derive.Reading
import FieldRules.Declaration.Basic

/-!
# What the items of an attribute declare

An item is read by taking the arguments that it knows; whatever is left over is refused.
-/
set_option autoImplicit false

namespace FieldRules.Derive

open Source

structure Arguments where
  named : List (Ident × Expr)
  positional : List Expr
  flags : List Ident

namespace Arguments

def namedOf : Argument → Option (Ident × Expr)
  | .named name value => some (name, value.expr)
  | _ => none

def positionalOf : Argument → Option Expr
  | .positional value => some value.expr
  | _ => none

def flagOf : Argument → Option Ident
  | .flag name => some name
  | _ => none

def ofList (arguments : List Argument) : Arguments :=
  ⟨arguments.filterMap namedOf, arguments.filterMap positionalOf, arguments.filterMap flagOf⟩

def isCalled (name : String) (a : Ident × Expr) : Bool :=
  a.1.spelling == name

def take (name : String) (a : Arguments) : Option Expr × Arguments :=
  ((a.named.find? (isCalled name)).map Prod.snd, { a with named := a.named.eraseP (isCalled name) })

def takeFlag (name : String) (a : Arguments) : Bool × Arguments :=
  (a.flags.any (·.text == name), { a with flags := a.flags.eraseP (·.text == name) })

/-- Refuses the first argument that is left: a named one, else a flag, else a value alone. -/
def finish (label : String) (a : Arguments) : Reading Unit :=
  match a.named, a.flags, a.positional with
  | (name, _) :: _, _, _ =>
    .error ⟨name.spot, s!"unknown argument \x60{name.text}\x60 for \x60{label}\x60"⟩
  | [], flag :: _, _ => .error ⟨flag.spot, s!"unknown flag \x60{flag.text}\x60 for \x60{label}\x60"⟩
  | [], [], e :: _ => e.unfit s!"\x60{label}\x60 does not take positional values"
  | [], [], [] => .ok ()

end Arguments

abbrev ArgumentReader := StateT Arguments (Except Diagnostic)

namespace AttributeItem

def unfit {α : Type} (i : AttributeItem) (message : String) : Reading α :=
  .error ⟨i.spot, message⟩

def requiredValue (i : AttributeItem) : Reading Expr :=
  match i.value? with
  | some value => .ok value.expr
  | none => i.unfit s!"\x60{i.label}\x60 expects a value: \x60{i.label} = ...\x60"

def requiredText (i : AttributeItem) : Reading String := do
  (← i.requiredValue).text

def readArguments {α : Type} (i : AttributeItem) (reader : ArgumentReader α) : Reading α := do
  let (a, left) ← reader.run (.ofList i.arguments)
  left.finish i.label
  return a

def named? {α : Type} (name : String) (read : Expr → Reading α) : ArgumentReader (Option α) := do
  match (← modifyGet (Arguments.take name)) with
  | some e => return some (← read e)
  | none => return none

def named {α : Type} (i : AttributeItem) (name : String) (read : Expr → Reading α) : ArgumentReader α := do
  match (← named? name read) with
  | some a => return a
  | none => i.unfit s!"\x60{i.label}\x60 requires \x60{name} = ...\x60"

end AttributeItem

open AttributeItem

/-- A value in a list: an array of texts, or anything that has a text. -/
def listEntry (e : Expr) : Reading (List String) :=
  match e with
  | .array _ _ => e.texts
  | _ => do
    match (← e.value).display? with
    | some text => return [text]
    | none => e.unfit "null is not a valid list entry"

/-- The values alone, then those under a name. -/
def textList (name : String) : ArgumentReader (List String) := do
  let a ← get
  set { a with positional := [] }
  let entries ← a.positional.mapM fun e => (listEntry e : Reading (List String))
  let more ← named? name Expr.texts
  return entries.flatten ++ more.getD []

def ruleOf (i : AttributeItem) : ArgumentReader Rule := do
  match i.label with
  | "required" => return .required
  | "length" => do
    let min ← named? "min" Expr.size
    return .length (min.getD 0) (← i.named "max" Expr.size)
  | "range" => return .range (← i.named "min" Expr.number) (← i.named "max" Expr.number)
  | "email" => return .email
  | "url" => return .url
  | "credit_card" => return .creditCard
  | "phone" => return .phone
  | "future_date" => return .futureDate
  | "file_extension" | "file_extensions" => return .fileExtension (← textList "extensions")
  | "allowed_values" => return .allowedValues (← textList "values")
  | "required_if" => return .requiredIf (← i.named "field" Expr.text) (← i.named "equals" Expr.value)
  | "conditional_range" =>
    return .conditionalRange (← i.named "field" Expr.text) (← i.named "equals" Expr.value)
      (← i.named "min" Expr.number) (← i.named "max" Expr.number)
  | other => i.unfit s!"unknown validate attribute \x60{other}\x60"

/-- The message of a constraint, as a template or as a key but not as both. -/
def messageSource : ArgumentReader (Option MessageSource) := do
  let template ← named? "message" pure
  let key ← named? "message_key" pure
  match template, key with
  | some _, some key => key.unfit "use either \x60message\x60 or \x60message_key\x60, not both"
  | some template, none => return some (.literal (← template.text))
  | none, some key => return some (.resource (← key.text))
  | none, none => return none

def severityOf (e : Expr) : Reading Severity := do
  let text ← e.text
  match Severity.read? text with
  | some severity => return severity
  | none =>
    e.unfit s!"unknown severity \x60{text}\x60; expected \"info\", \"warning\" or \"error\""

def constraintOf (i : AttributeItem) : Reading Constraint :=
  match i.value? with
  | some _ => i.unfit s!"\x60{i.label}\x60 does not take \x60= value\x60; use \x60{i.label}(...)\x60"
  | none =>
    i.readArguments do
      let rule ← ruleOf i
      let message ← messageSource
      let severity ← named? "severity" severityOf
      let group ← named? "group" Expr.text
      return { rule, message, severity := severity.getD .error, group }

def validatorOf (i : AttributeItem) : Reading (ValidatorRef × Path) :=
  match i.content with
  | .value value => do
    let path ← value.expr.functionPath
    return ({ name := path.spelling }, path)
  | .nothing =>
    i.unfit "\x60custom\x60 expects a function: \x60custom = path\x60 or \x60custom(function = path)\x60"
  | .arguments _ =>
    i.readArguments do
      match (← named? "function" Expr.functionPath) with
      | none => i.unfit "\x60custom(...)\x60 requires \x60function = path\x60"
      | some path => do
        let name ← named? "name" Expr.text
        let isAsync ← modifyGet (Arguments.takeFlag "async")
        return (⟨name.getD path.spelling, isAsync⟩, path)

def addOption (i : AttributeItem) (d : Directive) (a : Argument) : Reading Directive :=
  match a with
  | .flag flag =>
    match flag.text with
    | "trim" => .ok { d with trim := true }
    | "upper" | "uppercase" => .ok { d with upper := true }
    | "lower" | "lowercase" => .ok { d with lower := true }
    | other =>
      .error ⟨flag.spot,
        s!"unknown sanitize option \x60{other}\x60; expected \x60trim\x60, \x60upper\x60 or \x60lower\x60"⟩
  | _ => i.unfit "sanitize options are bare flags: \x60trim\x60, \x60upper\x60, \x60lower\x60"

def directiveOf (i : AttributeItem) : Reading Directive :=
  match i.content with
  | .arguments options => options.foldlM (addOption i) .none
  | _ => i.unfit "\x60sanitize\x60 expects options: \x60sanitize(trim, upper)\x60"

end FieldRules.Derive
