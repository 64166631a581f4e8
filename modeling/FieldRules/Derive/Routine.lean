import FieldRules.Custom
import FieldRules.Derive.Instance
import FieldRules.Message
import FieldRules.Plan

/-!
# Routines

The straight-line code that is made for an annotated model: it sanitizes fields, then has a block for each
validate step of the plan, then calls the hook. A routine can be run on instances of the model.
-/
set_option autoImplicit false

namespace FieldRules.Derive

open Source

/-- Where a routine takes a message from. -/
inductive MessageExpr where
  /-- A text that is complete when the routine is made. -/
  | fixed (text : String)
  /-- A template that is looked up when the routine runs. -/
  | resource (key : String) (arguments : Message.Arguments) (fallback : String)
  deriving DecidableEq

namespace MessageExpr

def ofConstraint (c : Constraint) (label : String) : MessageExpr :=
  match c.message with
  | some (.resource key) =>
    .resource key (Message.arguments c.rule label) (Message.defaultText c.rule label)
  | _ => .fixed (c.fixedMessage label)

def text (catalog : Option Catalog) : MessageExpr → String
  | fixed text => text
  | resource key arguments fallback => Message.resolve catalog key arguments fallback

end MessageExpr

/-- A rule on the field at a place, and the entry that is added if it fails. -/
structure Check where
  place : String
  rule : Rule
  /-- The place that a conditional rule reads. -/
  sibling : Option String
  group : Option String
  field : String
  message : MessageExpr
  severity : Severity
  deriving DecidableEq

inductive Statement where
  | sanitize (place : String) (directive : Directive)
  | check (check : Check)
  | call (place : String) (function : Path) (site : Site) (isAsync : Bool)
  /-- A custom validator without a function, which is no valid code. -/
  | missing (validator : String)
  | hook (function : Path)

structure Routine where
  statements : List Statement

namespace AnnotatedModel

def place? (m : AnnotatedModel) (index : Nat) : Option String :=
  m.fields[index]?.map fun f => f.ident.spelling

def function? (m : AnnotatedModel) (index position : Nat) : Option Path :=
  m.fields[index]?.bind fun f => f.paths[position]?

end AnnotatedModel

namespace Routine

def sanitizeStatement? (m : AnnotatedModel) (s : SanitizeStep) : Option Statement :=
  (m.place? s.field).map fun place => .sanitize place s.directive

/-- The custom steps of a field among some steps. -/
def customCount (field : Nat) (steps : List ValidateStep) : Nat :=
  (steps.filter fun s => s.field == field && s.validator?.isSome).length

/-- The block of a validate step that comes behind others. The custom steps of a field call its functions in
order. -/
def validateStatement? (m : AnnotatedModel) (p : Plan) (earlier : List ValidateStep) (s : ValidateStep) :
    Option Statement := do
  let place ← m.place? s.field
  let f ← p.fields[s.field]?
  match s with
  | .constraint _ c sibling =>
    return .check
      { place, rule := c.rule, sibling := sibling.bind m.place?, group := c.group, field := f.name
        message := .ofConstraint c f.label, severity := c.severity }
  | .custom index v =>
    match m.function? index (customCount index earlier) with
    | some function => return .call place function ⟨p.model, f.name, f.label, v.name⟩ v.isAsync
    | none => return .missing v.name

def validateStatements (m : AnnotatedModel) (p : Plan) (earlier : List ValidateStep) :
    List ValidateStep → List Statement
  | [] => []
  | s :: rest => (validateStatement? m p earlier s).toList ++ validateStatements m p (s :: earlier) rest

def ofPlan (m : AnnotatedModel) (p : Plan) : Routine :=
  ⟨p.sanitize.filterMap (sanitizeStatement? m) ++ validateStatements m p [] p.validate ++
    (m.hook.map .hook).toList⟩

def ofModel (m : AnnotatedModel) : Routine :=
  ofPlan m (.ofDeclaration m.declaration)

end Routine

/-- What the functions do that a routine calls by their paths. -/
structure Functions where
  validator : Path → Typed → Services → CustomResult
  hook : Path → Instance → Context → List Entry

namespace Check

/-- Whether the check takes part: one of a group only when that group is active. -/
def isActive (c : Check) (active : Option String) : Bool :=
  match c.group with
  | none => true
  | some group => active == some group

/-- The verdict of the rule on an instance. A missing sibling reads as null. -/
def holds (c : Check) (i : Instance) (now : Instant) : Bool :=
  match c.sibling with
  | some sibling => c.rule.holds now (i.field sibling) (i.field c.place)
  | none => c.rule.holds now Value.null (i.field c.place)

def entries (c : Check) (i : Instance) (ctx : Context) : List Entry :=
  if c.isActive ctx.group && !c.holds i ctx.now then
    [⟨c.field, c.message.text ctx.catalog, c.severity⟩]
  else []

end Check

def Statement.run (functions : Functions) (ctx : Context) (v : Validated Instance) :
    Statement → Validated Instance
  | sanitize place directive => { v with record := v.record.sanitizeAt place directive }
  | check c => { v with outcome := v.outcome.extend (c.entries v.record ctx) }
  | call place function site _ =>
    let result := functions.validator function (v.record.field place) ctx.services
    { v with
      outcome := v.outcome.extend (result.entries site ctx.policy)
      warnings := v.warnings ++ result.warnings site ctx.policy }
  | missing _ => v
  | hook function => { v with outcome := v.outcome.extend (functions.hook function v.record ctx) }

def Routine.run (r : Routine) (functions : Functions) (i : Instance) (ctx : Context) : Validated Instance :=
  r.statements.foldl (Statement.run functions ctx) ⟨i, .empty, []⟩

end FieldRules.Derive
