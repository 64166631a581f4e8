import FieldRules.Declaration.Check

/-!
# Plans

The steps of a validation in order: first every sanitizing, then for each field its constraints and its
custom validators, last the hook. Fields are named by their index.
-/
set_option autoImplicit false

namespace FieldRules

structure PlannedField where
  name : String
  label : String
  fieldType : FieldType
  nullable : Bool
  deriving DecidableEq

structure SanitizeStep where
  field : Nat
  directive : Directive
  deriving DecidableEq

inductive ValidateStep where
  /-- A constraint; `sibling` is the index of the field that a conditional rule reads. -/
  | constraint (field : Nat) (constraint : Constraint) (sibling : Option Nat)
  | custom (field : Nat) (validator : ValidatorRef)
  deriving DecidableEq

namespace ValidateStep

def field : ValidateStep → Nat
  | constraint field _ _ => field
  | custom field _ => field

def validator? : ValidateStep → Option ValidatorRef
  | constraint _ _ _ => none
  | custom _ validator => some validator

def constraint? : ValidateStep → Option Constraint
  | constraint _ c _ => some c
  | custom _ _ => none

def same : ValidateStep → ValidateStep → Bool
  | constraint i c s, constraint j c' s' => i == j && c.same c' && s == s'
  | a, b => a == b

end ValidateStep

structure Plan where
  model : String
  fields : List PlannedField
  sanitize : List SanitizeStep
  validate : List ValidateStep
  hook : Option String
  deriving DecidableEq

namespace FieldDeclaration

def planned (f : FieldDeclaration) : PlannedField :=
  ⟨f.name, f.label, f.fieldType, f.nullable⟩

/-- The validate steps of a field at an index: its constraints, then its validators. -/
def steps (model : ModelDeclaration) (index : Nat) (f : FieldDeclaration) : List ValidateStep :=
  (f.constraints.map fun c => .constraint index c (c.rule.sibling?.bind model.fieldIndex?)) ++
    f.validators.map (.custom index)

end FieldDeclaration

namespace Plan

def sanitizeSteps (index : Nat) : List FieldDeclaration → List SanitizeStep
  | [] => []
  | f :: rest => (f.directive?.map (SanitizeStep.mk index)).toList ++ sanitizeSteps (index + 1) rest

def validateSteps (model : ModelDeclaration) (index : Nat) : List FieldDeclaration → List ValidateStep
  | [] => []
  | f :: rest => f.steps model index ++ validateSteps model (index + 1) rest

/-- The plan of a declaration, whether or not it is accepted. A sibling that does not exist has no index. -/
def ofDeclaration (d : ModelDeclaration) : Plan :=
  { model := d.name
    fields := d.fields.map FieldDeclaration.planned
    sanitize := sanitizeSteps 0 d.fields
    validate := validateSteps d 0 d.fields
    hook := d.hook }

/-- The plan of an accepted declaration, or everything that is wrong with it. -/
def build (d : ModelDeclaration) : Except (List DeclarationError) Plan :=
  if d.isAccepted then .ok (ofDeclaration d) else .error d.errors

def buildAll (ds : List ModelDeclaration) : List (Except (List DeclarationError) Plan) :=
  ds.map build

def fieldIndex? (p : Plan) (name : String) : Option Nat :=
  p.fields.findIdx? fun f => f.name == name

def stepsFor (p : Plan) (index : Nat) : List ValidateStep :=
  p.validate.filter fun s => s.field == index

def validators (p : Plan) : List ValidatorRef :=
  p.validate.filterMap ValidateStep.validator?

def hasAsync (p : Plan) : Bool :=
  p.validators.any ValidatorRef.isAsync

def isEmpty (p : Plan) : Bool :=
  p.sanitize.isEmpty && p.validate.isEmpty && p.hook.isNone

def sameSteps : List ValidateStep → List ValidateStep → Bool
  | [], [] => true
  | s :: ss, t :: ts => s.same t && sameSteps ss ts
  | _, _ => false

def same (p q : Plan) : Bool :=
  p.model == q.model && p.fields == q.fields && p.sanitize == q.sanitize &&
    sameSteps p.validate q.validate && p.hook == q.hook

end Plan
end FieldRules
