import FieldRules.Declaration.Check
import FieldRules.Description.Basic

/-!
# Descriptions of declarations

Declarations with the labels and other views of their fields, and the errors in them.
-/
set_option autoImplicit false

namespace FieldRules.Description

instance : Describe Severity := ⟨fun s => .text s.name⟩

instance : Describe Directive :=
  ⟨fun d => members "trim upper lower" [describe d.trim, describe d.upper, describe d.lower]⟩

instance : Describe MessageSource where
  describe
    | .literal template => members "literal" [describe template]
    | .resource key => members "resource" [describe key]

def parameters : Rule → List (String × Document)
  | .length min max => [("min", describe min), ("max", describe max)]
  | .range min max => [("min", describe min), ("max", describe max)]
  | .fileExtension extensions => [("extensions", describe extensions)]
  | .allowedValues values => [("values", describe values)]
  | .requiredIf other target => [("other", describe other), ("target", describe target)]
  | .conditionalRange other target min max =>
    [("other", describe other), ("target", describe target), ("min", describe min), ("max", describe max)]
  | _ => []

instance : Describe Constraint where
  describe c :=
    .map ([("kind", describe c.rule.name), ("message", describe c.message),
      ("severity", describe c.severity), ("group", describe c.group)] ++ parameters c.rule)

instance : Describe ValidatorRef :=
  ⟨fun v => members "name is_async" [describe v.name, describe v.isAsync]⟩

instance : Describe FieldDeclaration where
  describe f :=
    members "name field_type nullable display_name label inert constraints sanitize custom_validators"
      [describe f.name, describe f.fieldType, describe f.nullable, describe f.displayName, describe f.label,
        describe f.isInert, describe f.constraints, describe f.sanitize, describe f.validators]

instance : Describe ModelDeclaration where
  describe d :=
    members "name fields model_hook custom_names"
      [describe d.name, describe d.fields, describe d.hook, describe d.validatorNames]

def kind : Defect → String
  | .duplicateField _ => "DuplicateField"
  | .danglingReference _ _ _ => "DanglingReference"
  | .selfReference _ _ => "SelfReference"
  | .invalidBounds _ _ _ _ => "InvalidBounds"
  | .emptySet _ _ => "EmptySet"
  | .incompatibleType _ _ _ => "IncompatibleType"
  | .unresolvedValidator _ _ => "UnresolvedCustomValidator"
  | .unresolvedHook _ => "UnresolvedModelHook"
  | .emptyName _ => "EmptyName"

instance : Describe DeclarationError where
  describe e :=
    members "kind field message" [describe (kind e.defect), describe e.defect.field?, describe e.message]

def errors (errors : List DeclarationError) : Document :=
  members "declaration_errors text len"
    [describe errors, describe (DeclarationError.listMessage errors), describe errors.length]

end FieldRules.Description
