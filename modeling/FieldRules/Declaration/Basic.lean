import FieldRules.Rule.Basic
import FieldRules.Sanitize

/-!
# Declarations

What is declared about a model: its fields in order, and for each of them its type, its label, how it is
sanitized, its constraints and its custom validators.
-/
set_option autoImplicit false

namespace FieldRules

structure ValidatorRef where
  name : String
  isAsync : Bool := false
  deriving DecidableEq

structure FieldDeclaration where
  name : String
  fieldType : FieldType := .other
  nullable : Bool := false
  displayName : Option String := none
  constraints : List Constraint := []
  sanitize : Option Directive := none
  validators : List ValidatorRef := []
  deriving DecidableEq

namespace FieldDeclaration

def label (f : FieldDeclaration) : String :=
  f.displayName.getD f.name

def isInert (f : FieldDeclaration) : Bool :=
  f.constraints.isEmpty && f.validators.isEmpty && f.sanitize.all Directive.isNoop

def directive? (f : FieldDeclaration) : Option Directive :=
  f.sanitize.filter fun d => !d.isNoop

def sameConstraints : List Constraint → List Constraint → Bool
  | [], [] => true
  | c :: cs, c' :: cs' => c.same c' && sameConstraints cs cs'
  | _, _ => false

def same (f g : FieldDeclaration) : Bool :=
  f.name == g.name && f.fieldType == g.fieldType && f.nullable == g.nullable &&
    f.displayName == g.displayName && sameConstraints f.constraints g.constraints &&
    f.sanitize == g.sanitize && f.validators == g.validators

end FieldDeclaration

structure ModelDeclaration where
  name : String
  fields : List FieldDeclaration := []
  hook : Option String := none
  deriving DecidableEq

namespace ModelDeclaration

def field? (d : ModelDeclaration) (name : String) : Option FieldDeclaration :=
  d.fields.find? fun f => f.name == name

def fieldIndex? (d : ModelDeclaration) (name : String) : Option Nat :=
  d.fields.findIdx? fun f => f.name == name

def validatorNames (d : ModelDeclaration) : List String :=
  d.fields.flatMap fun f => f.validators.map ValidatorRef.name

def sameFields : List FieldDeclaration → List FieldDeclaration → Bool
  | [], [] => true
  | f :: fs, g :: gs => f.same g && sameFields fs gs
  | _, _ => false

/-- Equality of declarations, in which numbers are compared as numbers: `0` and `-0` are equal, and
not-a-number equals nothing. -/
def same (d e : ModelDeclaration) : Bool :=
  d.name == e.name && sameFields d.fields e.fields && d.hook == e.hook

end ModelDeclaration
end FieldRules
