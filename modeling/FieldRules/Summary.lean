import FieldRules.Plan
import FieldRules.Rule.Verdict

/-!
# Summaries

What the constraints of each field come to, for those who describe a model elsewhere: bounds, formats,
sets and conditions, gathered from the plan.
-/
set_option autoImplicit false

namespace FieldRules

inductive Format where
  | email
  | url
  | creditCard
  | phone
  | fileExtension
  | futureDate
  deriving DecidableEq

namespace Format

def all : List Format :=
  [email, url, creditCard, phone, fileExtension, futureDate]

def name : Format → String
  | email => "email"
  | url => "url"
  | creditCard => "credit_card"
  | phone => "phone"
  | fileExtension => "file_extension"
  | futureDate => "future_date"

def ofName? (name : String) : Option Format :=
  all.find? fun f => f.name == name

theorem ofName?_name (f : Format) : ofName? f.name = some f := by
  cases f <;> rfl

end Format

structure Condition where
  other : String
  target : Value
  required : Bool
  numericMin : Option Double
  numericMax : Option Double
  deriving DecidableEq

structure FieldSummary where
  name : String
  displayName : String
  fieldType : FieldType
  nullable : Bool
  hasRequired : Bool := false
  stringMin : Option UInt64 := none
  stringMax : Option UInt64 := none
  numericMin : Option Double := none
  numericMax : Option Double := none
  formats : List Format := []
  allowedValues : List String := []
  fileExtensions : List String := []
  conditions : List Condition := []
  groups : List String := []
  deriving DecidableEq

structure Summary where
  model : String
  fields : List FieldSummary
  deriving DecidableEq

def addNew {α : Type} [BEq α] (members : List α) (a : α) : List α :=
  if members.contains a then members else members ++ [a]

def sameBound (a b : Option Double) : Bool :=
  match a, b with
  | none, none => true
  | some x, some y => x.same y
  | _, _ => false

namespace Condition

def same (c d : Condition) : Bool :=
  c.other == d.other && c.target.same d.target && c.required == d.required &&
    sameBound c.numericMin d.numericMin && sameBound c.numericMax d.numericMax

def sameAll : List Condition → List Condition → Bool
  | [], [] => true
  | c :: cs, d :: ds => c.same d && sameAll cs ds
  | _, _ => false

end Condition

namespace FieldSummary

def ofPlanned (f : PlannedField) : FieldSummary :=
  { name := f.name, displayName := f.label, fieldType := f.fieldType, nullable := f.nullable }

def addFormat (s : FieldSummary) (f : Format) : FieldSummary :=
  { s with formats := addNew s.formats f }

def lowered (s : String) : String :=
  s.map Char.toLower

/-- Takes in a rule: bounds narrow, sets of allowed values are cut down to the common ones, and all else
is added. -/
def absorb (s : FieldSummary) : Rule → FieldSummary
  | .required => { s with hasRequired := true }
  | .length min max =>
    { s with
      stringMin := if 0 < min then some ((s.stringMin.map fun m => if m < min then min else m).getD min)
        else s.stringMin
      stringMax := some ((s.stringMax.map fun m => if max < m then max else m).getD max) }
  | .range min max =>
    { s with
      numericMin := some ((s.numericMin.map (·.max min)).getD min)
      numericMax := some ((s.numericMax.map (·.min max)).getD max) }
  | .email => s.addFormat .email
  | .url => s.addFormat .url
  | .creditCard => s.addFormat .creditCard
  | .phone => s.addFormat .phone
  | .futureDate => s.addFormat .futureDate
  | .fileExtension extensions =>
    { s.addFormat .fileExtension with
      fileExtensions :=
        (extensions.map fun e => lowered (Verdict.extensionName e)).foldl addNew s.fileExtensions }
  | .allowedValues values =>
    { s with
      allowedValues :=
        if s.allowedValues.isEmpty then values else s.allowedValues.filter values.contains }
  | .requiredIf other target =>
    { s with conditions := s.conditions ++ [⟨other, target, true, none, none⟩] }
  | .conditionalRange other target min max =>
    { s with conditions := s.conditions ++ [⟨other, target, false, some min, some max⟩] }

def absorbConstraint (s : FieldSummary) (c : Constraint) : FieldSummary :=
  let s := s.absorb c.rule
  match c.group with
  | some group => { s with groups := addNew s.groups group }
  | none => s

def same (s t : FieldSummary) : Bool :=
  s.name == t.name && s.displayName == t.displayName && s.fieldType == t.fieldType &&
    s.nullable == t.nullable && s.hasRequired == t.hasRequired && s.stringMin == t.stringMin &&
    s.stringMax == t.stringMax && sameBound s.numericMin t.numericMin &&
    sameBound s.numericMax t.numericMax && s.formats == t.formats &&
    s.allowedValues == t.allowedValues && s.fileExtensions == t.fileExtensions &&
    Condition.sameAll s.conditions t.conditions && s.groups == t.groups

def sameAll : List FieldSummary → List FieldSummary → Bool
  | [], [] => true
  | s :: ss, t :: ts => s.same t && sameAll ss ts
  | _, _ => false

end FieldSummary

namespace Summary

def absorbStep (fields : List FieldSummary) : ValidateStep → List FieldSummary
  | .constraint index c _ => fields.modify index (·.absorbConstraint c)
  | .custom _ _ => fields

def ofPlan (p : Plan) : Summary :=
  { model := p.model
    fields := p.validate.foldl absorbStep (p.fields.map FieldSummary.ofPlanned) }

def same (s t : Summary) : Bool :=
  s.model == t.model && FieldSummary.sameAll s.fields t.fields

end Summary
end FieldRules
