import FieldRules.Engine

/-!
# The registry

Validators by the type of what they validate, and prepared models by name.
-/
set_option autoImplicit false

namespace FieldRules

inductive Origin where
  | generated
  | interpreted
  | custom
  deriving DecidableEq

def Origin.name : Origin → String
  | generated => "generated"
  | interpreted => "interpreted"
  | custom => "custom"

structure Validator (α : Type) where
  origin : Origin
  run : α → Context → Validated α

/-- A type with a validation of its own and the declaration that it was made from. -/
class Validate (α : Type) where
  declaration : ModelDeclaration
  validate : α → Context → Validated α

def Validator.generated (α : Type) [Validate α] : Validator α :=
  ⟨.generated, Validate.validate⟩

def Validator.interpreted {α : Type} [Record α] (m : PreparedModel) : Validator α :=
  ⟨.interpreted, m.run⟩

structure TypedEntry {κ : Type} (Carrier : κ → Type) where
  key : κ
  model : String
  validator : Validator (Carrier key)

/-- Typed entries have one place for each type of instances, named entries one for each model name. -/
structure Registry {κ : Type} (Carrier : κ → Type) where
  typed : List (TypedEntry Carrier)
  named : Keyed PreparedModel

structure NotRegistered where
  model : String
  deriving DecidableEq

def NotRegistered.message (e : NotRegistered) : String :=
  s!"No validator registered for model '{e.model}'"

namespace Registry

variable {κ : Type} [DecidableEq κ] {Carrier : κ → Type}

def empty : Registry Carrier :=
  ⟨[], []⟩

def registerValidator (r : Registry Carrier) (k : κ) (model : String) (v : Validator (Carrier k)) :
    Registry Carrier :=
  { r with typed := ⟨k, model, v⟩ :: r.typed.filter fun e => e.key ≠ k }

def registerGenerated (r : Registry Carrier) (k : κ) [Validate (Carrier k)] : Registry Carrier :=
  r.registerValidator k (Validate.declaration (Carrier k)).name (.generated _)

/-- Prepares a declaration as the validator of a type; a rejected one registers nothing. -/
def registerInterpreted (r : Registry Carrier) (e : Engine) (k : κ) [Record (Carrier k)]
    (d : ModelDeclaration) : Engine × Except (List DeclarationError) (Registry Carrier) :=
  let (next, result) := e.prepare d
  (next, result.map fun m => r.registerValidator k d.name (.interpreted m))

def lookup? (r : Registry Carrier) (k : κ) : Option (Validator (Carrier k)) :=
  r.typed.findSome? fun e => if h : e.key = k then some (h ▸ e.validator) else none

def originOf? (r : Registry Carrier) (k : κ) : Option Origin :=
  (r.lookup? k).map Validator.origin

def contains (r : Registry Carrier) (k : κ) : Bool :=
  r.typed.any fun e => e.key = k

/-- Removes the validator of a type; the second part tells whether there was one. -/
def unregister (r : Registry Carrier) (k : κ) : Registry Carrier × Bool :=
  ({ r with typed := r.typed.filter fun e => e.key ≠ k }, r.contains k)

def validate? (r : Registry Carrier) (k : κ) (subject : Carrier k) (ctx : Context) :
    Option (Validated (Carrier k)) :=
  (r.lookup? k).map fun v => v.run subject ctx

def registerNamed (r : Registry Carrier) (m : PreparedModel) : Registry Carrier :=
  { r with named := r.named.insert m.plan.model m }

def lookupNamed? (r : Registry Carrier) (model : String) : Option PreparedModel :=
  r.named.get? model

def unregisterNamed (r : Registry Carrier) (model : String) : Registry Carrier × Bool :=
  ({ r with named := r.named.erase model }, r.named.contains model)

/-- Runs the model registered under the name of the record's own model. -/
def validateNamed {ρ : Type} [Record ρ] (r : Registry Carrier) (record : ρ) (ctx : Context) :
    Except NotRegistered (Validated ρ) :=
  match r.lookupNamed? (Record.modelName record) with
  | some m => .ok (m.run record ctx)
  | none => .error ⟨Record.modelName record⟩

def size (r : Registry Carrier) : Nat :=
  r.typed.length + r.named.length

def isEmpty (r : Registry Carrier) : Bool :=
  r.typed.isEmpty && r.named.isEmpty

def insertName (name : String) : List String → List String
  | [] => [name]
  | n :: rest =>
    if name < n then name :: n :: rest
    else if name = n then n :: rest
    else n :: insertName name rest

def modelNames (r : Registry Carrier) : List String :=
  (r.typed.map TypedEntry.model ++ r.named.names).foldl (fun names n => insertName n names) []

end Registry
end FieldRules
