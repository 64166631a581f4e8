import FieldRules.Custom
import FieldRules.Summary

/-!
# Prepared models

A declaration that was accepted, with its plan and with the functions that it refers to. Running it
sanitizes the record, then takes every validate step, then the hook.
-/
set_option autoImplicit false

namespace FieldRules

structure PreparedModel where
  declaration : ModelDeclaration
  plan : Plan
  /-- One slot for each validate step, filled for custom steps. -/
  slots : List (Option CustomValidator)
  hook : Option Hook

namespace PreparedModel

def slot (validators : ValidatorSet) (s : ValidateStep) : Option CustomValidator :=
  s.validator?.bind fun v => validators.validator? v.name

/-- The model of a plan that was built, if its references lead somewhere. -/
def ofPlan (d : ModelDeclaration) (p : Plan) (validators : ValidatorSet) :
    Except (List DeclarationError) PreparedModel :=
  let errors := d.referenceErrors validators.hasValidator validators.hasHook
  if errors.isEmpty then
    .ok { declaration := d
          plan := p
          slots := p.validate.map (slot validators)
          hook := p.hook.bind validators.hook? }
  else .error errors

/-- The model of a declaration. Its references are only looked at when all else is in order. -/
def prepare (d : ModelDeclaration) (validators : ValidatorSet) :
    Except (List DeclarationError) PreparedModel :=
  (Plan.build d).bind fun p => ofPlan d p validators

def summary (m : PreparedModel) : Summary :=
  .ofPlan m.plan

variable {ρ : Type} [Record ρ]

def applyDirective (p : Plan) (r : ρ) (s : SanitizeStep) : ρ :=
  match p.fields[s.field]? with
  | some f => Record.sanitized r f.name s.directive
  | none => r

def sanitize (p : Plan) (r : ρ) : ρ :=
  p.sanitize.foldl (applyDirective p) r

def valueAt (p : Plan) (r : ρ) (index : Nat) : Value :=
  match p.fields[index]? with
  | some f => Record.read r f.name
  | none => .null

def constraintEntries (p : Plan) (r : ρ) (ctx : Context) (f : PlannedField) (c : Constraint)
    (sibling : Option Nat) : List Entry :=
  if ctx.activates c && !c.rule.passes ctx.now (sibling.map (valueAt p r)) (Record.read r f.name) then
    [⟨f.name, c.failureMessage f.label ctx.catalog, c.severity⟩]
  else []

def site (p : Plan) (f : PlannedField) (v : ValidatorRef) : Site :=
  ⟨p.model, f.name, f.label, v.name⟩

/-- The entries and warnings of one validate step. A custom step without a function is passed over. -/
def runStep (p : Plan) (r : ρ) (ctx : Context) :
    ValidateStep × Option CustomValidator → List Entry × List String
  | (.constraint index c sibling, _) =>
    match p.fields[index]? with
    | some f => (constraintEntries p r ctx f c sibling, [])
    | none => ([], [])
  | (.custom index v, some custom) =>
    match p.fields[index]? with
    | some f =>
      let result := custom.run (Record.read r f.name) ctx.services
      (result.entries (site p f v) ctx.policy, result.warnings (site p f v) ctx.policy)
    | none => ([], [])
  | (.custom _ _, none) => ([], [])

def hookEntries (m : PreparedModel) (r : ρ) (ctx : Context) : List Entry :=
  match m.hook with
  | some hook => hook.run (Record.view r) ctx
  | none => []

/-- Sanitizes and checks a record. Every step runs, whatever came before it. -/
def run (m : PreparedModel) (r : ρ) (ctx : Context) : Validated ρ :=
  let r := sanitize m.plan r
  let steps := (m.plan.validate.zip m.slots).map (runStep m.plan r ctx)
  { record := r
    outcome := ⟨steps.flatMap Prod.fst ++ m.hookEntries r ctx⟩
    warnings := steps.flatMap Prod.snd }

end PreparedModel
end FieldRules
