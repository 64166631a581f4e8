import FieldRules.Declaration.Check

/-!
# Building declarations

A field is put together by calls in order. Message, severity and group go to the constraint added last.
-/
set_option autoImplicit false

namespace FieldRules

inductive Modifier where
  | message (template : String)
  | messageKey (key : String)
  | severity (severity : Severity)
  | group (group : String)
  deriving DecidableEq

inductive FieldCall where
  | nullable
  | displayName (label : String)
  | constraint (c : Constraint)
  | rule (r : Rule)
  | custom (name : String)
  | customAsync (name : String)
  | sanitize (d : Directive)
  | modify (m : Modifier)
  deriving DecidableEq

namespace Modifier

def apply (c : Constraint) : Modifier → Constraint
  | message template => { c with message := some (.literal template) }
  | messageKey key => { c with message := some (.resource key) }
  | severity s => { c with severity := s }
  | group g => { c with group := some g }

end Modifier

def modifyLast {α : Type} (f : α → α) : List α → List α
  | [] => []
  | [a] => [f a]
  | a :: b :: rest => a :: modifyLast f (b :: rest)

namespace FieldCall

def apply (f : FieldDeclaration) : FieldCall → FieldDeclaration
  | nullable => { f with nullable := true }
  | displayName label => { f with displayName := some label }
  | constraint c => { f with constraints := f.constraints ++ [c] }
  | rule r => { f with constraints := f.constraints ++ [{ rule := r }] }
  | custom name => { f with validators := f.validators ++ [⟨name, false⟩] }
  | customAsync name => { f with validators := f.validators ++ [⟨name, true⟩] }
  | sanitize d => { f with sanitize := some d }
  | modify m => { f with constraints := modifyLast (Modifier.apply · m) f.constraints }

/-- A modifier without a constraint to go to is reported and ignored. -/
def warning? (f : FieldDeclaration) : FieldCall → Option String
  | modify _ =>
    if f.constraints.isEmpty then
      some s!"field '{f.name}': modifier ignored, no constraint declared yet"
    else none
  | _ => none

end FieldCall

namespace FieldDeclaration

def ofCalls (name : String) (type : FieldType) (calls : List FieldCall) : FieldDeclaration :=
  calls.foldl FieldCall.apply { name := name, fieldType := type }

def callWarnings (f : FieldDeclaration) : List FieldCall → List String
  | [] => []
  | call :: rest => (call.warning? f).toList ++ callWarnings (call.apply f) rest

end FieldDeclaration

namespace ModelDeclaration

def build (d : ModelDeclaration) : Except (List DeclarationError) ModelDeclaration :=
  if d.isAccepted then .ok d else .error d.errors

end ModelDeclaration
end FieldRules
