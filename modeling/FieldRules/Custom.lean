import FieldRules.Context
import FieldRules.Outcome
import FieldRules.Record.Basic

/-!
# Custom validators and hooks

Functions of the user's own that are known by name. A validator that fails leaves a warning and, if the
policy says so, an error on its field.
-/
set_option autoImplicit false

namespace FieldRules

inductive CustomResult where
  | finished (outcome : Outcome)
  | faulted (reason : String)
  /-- It broke off, with a text if it left one. -/
  | panicked (message : Option String)
  deriving DecidableEq

structure Site where
  model : String
  field : String
  label : String
  validator : String
  deriving DecidableEq

namespace CustomResult

def fault? : CustomResult → Option String
  | finished _ => none
  | faulted reason => some reason
  | panicked message => some ("panicked: " ++ message.getD "non-string panic payload")

/-- The entries that a result adds. Entries without a field go to the field at the site. -/
def entries (site : Site) (policy : FaultPolicy) : CustomResult → List Entry
  | finished outcome => (outcome.attributeTo site.field).entries
  | _ =>
    match policy with
    | .absorb => []
    | .report => [{ field := site.field, message := s!"The {site.label} field could not be validated." }]

def warnings (site : Site) (policy : FaultPolicy) (r : CustomResult) : List String :=
  match r.fault? with
  | none => []
  | some fault =>
    let failed := s!"custom validator '{site.validator}' on {site.model}.{site.field} failed"
    match policy with
    | .absorb => [failed ++ ", treating field as valid: " ++ fault]
    | .report => [failed ++ ": " ++ fault]

end CustomResult

structure CustomValidator where
  run : Value → Services → CustomResult

structure Hook where
  run : RecordView → Context → List Entry

structure ValidatorSet where
  validators : Keyed CustomValidator := []
  hooks : Keyed Hook := []

namespace ValidatorSet

def register (s : ValidatorSet) (name : String) (v : CustomValidator) : ValidatorSet :=
  { s with validators := s.validators.insert name v }

def registerHook (s : ValidatorSet) (name : String) (h : Hook) : ValidatorSet :=
  { s with hooks := s.hooks.insert name h }

def validator? (s : ValidatorSet) (name : String) : Option CustomValidator :=
  s.validators.get? name

def hook? (s : ValidatorSet) (name : String) : Option Hook :=
  s.hooks.get? name

def hasValidator (s : ValidatorSet) (name : String) : Bool :=
  s.validators.contains name

def hasHook (s : ValidatorSet) (name : String) : Bool :=
  s.hooks.contains name

end ValidatorSet
end FieldRules
