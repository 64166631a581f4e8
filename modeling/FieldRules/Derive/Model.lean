import FieldRules.Declaration.Check
import FieldRules.Derive.FieldType
import FieldRules.Derive.Item

/-!
# Annotated models

A structure with rules in the attributes of its fields. The places of constraints and the paths of functions
stand beside what the fields declare, in lists of their own.
-/
set_option autoImplicit false

namespace FieldRules.Derive

open Source

structure AnnotatedField where
  ident : Ident
  name : String
  fieldType : FieldType
  nullable : Bool
  displayName : Option String := none
  sanitize : Option Directive := none
  constraints : List Constraint := []
  /-- The place of the item of each constraint. -/
  constraintSpots : List Spot := []
  validators : List ValidatorRef := []
  /-- The function of each custom validator. -/
  paths : List Path := []
  /-- Whether the field has an attribute of rules, be it an empty one. -/
  annotated : Bool := false

namespace AnnotatedField

def declaration (f : AnnotatedField) : FieldDeclaration :=
  { name := f.name
    fieldType := f.fieldType
    nullable := f.nullable
    displayName := f.displayName
    constraints := f.constraints
    sanitize := f.sanitize
    validators := f.validators }

def ofField (f : Field) : AnnotatedField :=
  let (fieldType, nullable) := Derive.fieldType f.type
  { ident := f.ident, name := f.ident.text, fieldType, nullable }

def applyItem (f : AnnotatedField) (i : AttributeItem) : Reading AnnotatedField :=
  match i.label with
  | "rename" => do return { f with name := (← i.requiredText) }
  | "display_name" => do return { f with displayName := some (← i.requiredText) }
  | "sanitize" =>
    if f.sanitize.isSome then i.unfit "a field accepts at most one \x60sanitize(...)\x60 directive"
    else if !f.fieldType.isTextual then
      i.unfit s!"\x60sanitize\x60 cannot be applied to a field of type {f.fieldType.name}"
    else do return { f with sanitize := some (← directiveOf i) }
  | "custom" => do
    let v ← validatorOf i
    return { f with validators := f.validators ++ [v.1], paths := f.paths ++ [v.2] }
  | _ => do
    let c ← constraintOf i
    return { f with constraints := f.constraints ++ [c], constraintSpots := f.constraintSpots ++ [i.spot] }

end AnnotatedField

def attributeName : String :=
  "validate"

/-- Applies every item of the attributes of rules. An item that is refused changes nothing and leaves a
diagnostic; so does an attribute that cannot be read. -/
def applyItems {σ : Type} (apply : σ → AttributeItem → Reading σ) (start : σ) (attributes : List Attribute) :
    σ × List Diagnostic :=
  (attributes.filter (·.isNamed attributeName)).foldl applyAttribute (start, [])
where
  applyOne (s : σ × List Diagnostic) (i : AttributeItem) : σ × List Diagnostic :=
    match apply s.1 i with
    | .ok next => (next, s.2)
    | .error d => (s.1, s.2 ++ [d])
  applyAttribute (s : σ × List Diagnostic) (a : Attribute) : σ × List Diagnostic :=
    match attributeItems a with
    | .ok items => items.foldl applyOne s
    | .error d => (s.1, s.2 ++ [d])

def readField (f : Field) : AnnotatedField × List Diagnostic :=
  let annotated := f.attributes.any (·.isNamed attributeName)
  applyItems AnnotatedField.applyItem { AnnotatedField.ofField f with annotated } f.attributes

structure ModelOptions where
  name : String
  hook : Option Path := none

def ModelOptions.applyItem (o : ModelOptions) (i : AttributeItem) : Reading ModelOptions :=
  match i.name.spelling with
  | "hook" => do return { o with hook := some (← (← i.requiredValue).functionPath) }
  | "name" => do return { o with name := (← i.requiredText) }
  | _ => i.unfit s!"unknown model attribute \x60{i.label}\x60; expected \x60hook\x60 or \x60name\x60"

structure AnnotatedModel where
  ident : Ident
  generics : Generics
  name : String
  fields : List AnnotatedField
  hook : Option Path

namespace AnnotatedModel

def declaration (m : AnnotatedModel) : ModelDeclaration :=
  { name := m.name
    fields := m.fields.map AnnotatedField.declaration
    hook := m.hook.map Path.spelling }

def siblings (fields : List AnnotatedField) : List String :=
  fields.flatMap fun f => f.constraints.filterMap fun c => c.rule.sibling?

/-- The fields that take part: annotated ones, and those that a conditional rule reads. -/
def participants (fields : List AnnotatedField) : List AnnotatedField :=
  fields.filter fun f => f.annotated || (siblings fields).contains f.name

/-- The field that a defect is reported on: of two fields with one name the second, else the first of the
name. -/
def fieldOf? (m : AnnotatedModel) (d : Defect) : Option AnnotatedField :=
  match d with
  | .duplicateField name => m.fields.reverse.find? (·.name == name)
  | _ => d.field?.bind fun name => m.fields.find? (·.name == name)

def ruleOf? : Defect → Option String
  | .danglingReference _ _ rule => some rule
  | .selfReference _ rule => some rule
  | .invalidBounds _ rule _ _ => some rule
  | .emptySet _ rule => some rule
  | .incompatibleType _ rule _ => some rule
  | _ => none

/-- The place of a defect: the first constraint of the field with the rule it is about, else the field, else
the model. -/
def spotOf (m : AnnotatedModel) (d : Defect) : Spot :=
  match m.fieldOf? d with
  | none => m.ident.spot
  | some f =>
    let index := f.constraints.findIdx? fun c => ruleOf? d == some c.rule.name
    (index.bind fun k => f.constraintSpots[k]?).getD f.ident.spot

def diagnostics (m : AnnotatedModel) : List Diagnostic :=
  m.declaration.errors.map fun e => ⟨m.spotOf e.defect, e.message⟩

/-- The model of a structure with named fields, or everything that is wrong with its attributes. -/
def ofFields (i : Item) (fields : List Field) : Except (List Diagnostic) AnnotatedModel :=
  let (options, refused) := applyItems ModelOptions.applyItem { name := i.ident.text } i.attributes
  let read := fields.map readField
  match refused ++ read.flatMap Prod.snd with
  | [] =>
    let m : AnnotatedModel :=
      ⟨i.ident, i.generics, options.name, participants (read.map Prod.fst), options.hook⟩
    match m.diagnostics with
    | [] => .ok m
    | diagnostics => .error diagnostics
  | diagnostics => .error diagnostics

def ofItem (i : Item) : Except (List Diagnostic) AnnotatedModel :=
  match i.body with
  | .named fields => ofFields i fields
  | .unnamed =>
    .error [⟨i.ident.spot, "Validate can only be derived for structs with named fields"⟩]
  | .other => .error [⟨i.ident.spot, "Validate can only be derived for structs"⟩]

end AnnotatedModel
end FieldRules.Derive
