import FieldRules.Declaration.Basic

/-!
# Checking declarations

Every defect of a declaration is found, so that all of them can be reported together.
-/
set_option autoImplicit false

namespace FieldRules

inductive Named where
  | model
  | field
  deriving DecidableEq

/-- What is wrong in a declaration. Rules and types are given by their names, bounds by their texts. -/
inductive Defect where
  | duplicateField (field : String)
  | danglingReference (field target rule : String)
  | selfReference (field rule : String)
  | invalidBounds (field rule min max : String)
  | emptySet (field rule : String)
  | incompatibleType (field rule fieldType : String)
  | unresolvedValidator (field name : String)
  | unresolvedHook (name : String)
  | emptyName (what : Named)
  deriving DecidableEq

structure DeclarationError where
  model : String
  defect : Defect
  deriving DecidableEq

namespace Defect

def field? : Defect → Option String
  | duplicateField field => some field
  | danglingReference field _ _ => some field
  | selfReference field _ => some field
  | invalidBounds field _ _ _ => some field
  | emptySet field _ => some field
  | incompatibleType field _ _ => some field
  | unresolvedValidator field _ => some field
  | unresolvedHook _ => none
  | emptyName _ => none

def message : Defect → String
  | duplicateField field => s!"field '{field}' is declared more than once"
  | danglingReference field target rule =>
    s!"field '{field}' references unknown field '{target}' in {rule}"
  | selfReference field rule => s!"field '{field}' cannot reference itself in {rule}"
  | invalidBounds field rule min max =>
    s!"field '{field}' has invalid {rule} bounds (min: {min}, max: {max})"
  | emptySet field rule => s!"field '{field}' declares {rule} with an empty set"
  | incompatibleType field rule fieldType =>
    s!"{rule} cannot be applied to field '{field}' of type {fieldType}"
  | unresolvedValidator field name => s!"field '{field}' references unknown custom validator '{name}'"
  | unresolvedHook name => s!"unknown model hook '{name}'"
  | emptyName .model => "model name must not be empty"
  | emptyName .field => "field name must not be empty"

end Defect

namespace DeclarationError

def message (e : DeclarationError) : String :=
  s!"model '{e.model}': " ++ e.defect.message

/-- One error as it is, several as a list under their number. -/
def listMessage : List DeclarationError → String
  | [] => "no declaration errors"
  | [e] => e.message
  | errors =>
    errors.foldl (fun text e => text ++ "\n  - " ++ e.message) s!"{errors.length} declaration errors:"

end DeclarationError

namespace Rule

/-- The name of the rule and its bounds, if they are out of order or not finite. -/
def boundsDefect (field : String) (r : Rule) : List Defect :=
  match r with
  | length min max =>
    if max < min then [.invalidBounds field r.name (toString min.toNat) (toString max.toNat)] else []
  | range min max | conditionalRange _ _ min max =>
    if min.isFinite && max.isFinite && min.atMost max then []
    else [.invalidBounds field r.name min.plain max.plain]
  | _ => []

def emptySetDefect (field : String) (r : Rule) : List Defect :=
  match r with
  | fileExtension extensions => if extensions.isEmpty then [.emptySet field r.name] else []
  | allowedValues values => if values.isEmpty then [.emptySet field r.name] else []
  | _ => []

def typeDefect (field : String) (type : FieldType) (r : Rule) : List Defect :=
  if (r.isTextual && !type.isTextual) || (r.isNumeric && !type.isNumeric) then
    [.incompatibleType field r.name type.name]
  else []

/-- A conditional rule reads another field of the model. -/
def referenceDefect (model : ModelDeclaration) (field : String) (r : Rule) : List Defect :=
  match r.sibling? with
  | none => []
  | some other =>
    if other == field then [.selfReference field r.name]
    else if (model.field? other).isNone then [.danglingReference field other r.name]
    else []

/-- The defects of a rule on a field, in the order in which they are reported. -/
def defects (model : ModelDeclaration) (f : FieldDeclaration) (r : Rule) : List Defect :=
  r.typeDefect f.name f.fieldType ++ r.boundsDefect f.name ++ r.emptySetDefect f.name ++
    r.referenceDefect model f.name

end Rule

namespace ModelDeclaration

def nameDefect (what : Named) (name : String) : List Defect :=
  if Text.blank name then [.emptyName what] else []

/-- The defects of fields in order, after fields of the given names. A field with a blank name is not
looked into. -/
def fieldDefects (d : ModelDeclaration) (seen : List String) : List FieldDeclaration → List Defect
  | [] => []
  | f :: rest =>
    if Text.blank f.name then .emptyName .field :: d.fieldDefects seen rest
    else
      (if seen.contains f.name then [.duplicateField f.name] else []) ++
        f.constraints.flatMap (fun c => c.rule.defects d f) ++ d.fieldDefects (f.name :: seen) rest

def defects (d : ModelDeclaration) : List Defect :=
  nameDefect .model d.name ++ d.fieldDefects [] d.fields

def errors (d : ModelDeclaration) : List DeclarationError :=
  d.defects.map (DeclarationError.mk d.name)

def referenceDefects (d : ModelDeclaration) (hasValidator hasHook : String → Bool) : List Defect :=
  (d.fields.flatMap fun f =>
    (f.validators.filter fun v => !hasValidator v.name).map fun v => .unresolvedValidator f.name v.name) ++
    (d.hook.filter fun name => !hasHook name).toList.map .unresolvedHook

def referenceErrors (d : ModelDeclaration) (hasValidator hasHook : String → Bool) :
    List DeclarationError :=
  (d.referenceDefects hasValidator hasHook).map (DeclarationError.mk d.name)

def isAccepted (d : ModelDeclaration) : Bool :=
  d.defects.isEmpty

end ModelDeclaration
end FieldRules
