import FieldRules.Prepared

/-!
# The engine

Prepares declarations and keeps the prepared models by name, so that a declaration that comes again is
not prepared again.
-/
set_option autoImplicit false

namespace FieldRules

structure Engine where
  validators : ValidatorSet
  prepared : Keyed PreparedModel

namespace Engine

def new (validators : ValidatorSet) : Engine :=
  ⟨validators, []⟩

def cached? (e : Engine) (model : String) : Option PreparedModel :=
  e.prepared.get? model

/-- The kept model of a declaration: one that was prepared from an equal declaration. -/
def reusable? (e : Engine) (d : ModelDeclaration) : Option PreparedModel :=
  (e.cached? d.name).filter fun m => m.declaration.same d

def keep (e : Engine) (m : PreparedModel) : Engine :=
  { e with prepared := e.prepared.insert m.declaration.name m }

/-- The model of a declaration, kept or newly prepared. A rejected declaration changes nothing. -/
def prepare (e : Engine) (d : ModelDeclaration) : Engine × Except (List DeclarationError) PreparedModel :=
  match e.reusable? d with
  | some m => (e, .ok m)
  | none =>
    match PreparedModel.prepare d e.validators with
    | .ok m => (e.keep m, .ok m)
    | .error errors => (e, .error errors)

/-- What is noted when a declaration is prepared: a rejection with its reasons. -/
def prepareWarnings (e : Engine) (d : ModelDeclaration) : List String :=
  match (e.prepare d).2 with
  | .ok _ => []
  | .error errors => [s!"rejected declaration {d.name}: " ++ DeclarationError.listMessage errors]

def prepareAll (e : Engine) : List ModelDeclaration →
    Engine × List (Except (List DeclarationError) PreparedModel)
  | [] => (e, [])
  | d :: rest =>
    let result := PreparedModel.prepare d e.validators
    let next := match result with
      | .ok m => e.keep m
      | .error _ => e
    let (last, results) := next.prepareAll rest
    (last, result :: results)

def invalidate (e : Engine) (model : String) : Engine × Bool :=
  ({ e with prepared := e.prepared.erase model }, e.prepared.contains model)

def validate {ρ : Type} [Record ρ] (e : Engine) (d : ModelDeclaration) (r : ρ) (ctx : Context) :
    Engine × Except (List DeclarationError) (Validated ρ) :=
  let (next, result) := e.prepare d
  (next, result.map fun m => m.run r ctx)

end Engine
end FieldRules
