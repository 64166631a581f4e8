import FieldRules.Source.Data
import FieldRules.Summary

/-!
# Declarations and summaries as code

The expressions that build a declaration or a summary again, with every member spelled out.
-/
set_option autoImplicit false

namespace FieldRules

open Source

namespace Derive

def library (path : List String) : List String :=
  "precheck" :: path

def privateLibrary (path : List String) : List String :=
  library ("__private" :: path)

end Derive

open Derive (library privateLibrary)

def Value.code : Value → DataExpr
  | null => .constant (library ["Value", "Null"])
  | bool b => .apply (library ["Value", "Bool"]) (.flag b)
  | int i => .apply (library ["Value", "Int"]) (.int i)
  | float x => .apply (library ["Value", "Float"]) (.float x)
  | text s => .apply (library ["Value", "String"]) (.owned s)
  | date t => .apply (privateLibrary ["datetime_value"]) (.text t.display)

def Severity.code : Severity → DataExpr
  | error => .constant (library ["Severity", "Error"])
  | warning => .constant (library ["Severity", "Warning"])
  | info => .constant (library ["Severity", "Info"])

def FieldType.code : FieldType → DataExpr
  | string => .constant (library ["FieldType", "String"])
  | int => .constant (library ["FieldType", "Int"])
  | float => .constant (library ["FieldType", "Float"])
  | bool => .constant (library ["FieldType", "Bool"])
  | date => .constant (library ["FieldType", "Date"])
  | enum => .constant (library ["FieldType", "Enum"])
  | other => .constant (library ["FieldType", "Other"])

def Directive.code (d : Directive) : DataExpr :=
  .struct (library ["SanitizeDirective"])
    [("trim", .flag d.trim), ("upper", .flag d.upper), ("lower", .flag d.lower)] false

namespace Rule

def codePath (variant : String) : List String :=
  library ["ConstraintKind", variant]

def code : Rule → DataExpr
  | required => .constant (codePath "Required")
  | length min max => .struct (codePath "StringLength") [("min", .size min), ("max", .size max)] false
  | range min max => .struct (codePath "Range") [("min", .float min), ("max", .float max)] false
  | email => .constant (codePath "EmailFormat")
  | url => .constant (codePath "UrlFormat")
  | creditCard => .constant (codePath "CreditCardFormat")
  | phone => .constant (codePath "PhoneFormat")
  | fileExtension extensions =>
    .struct (codePath "FileExtension") [("extensions", .owneds extensions)] false
  | futureDate => .constant (codePath "FutureDate")
  | allowedValues values => .struct (codePath "AllowedValues") [("values", .owneds values)] false
  | requiredIf other target =>
    .struct (codePath "RequiredIf") [("other", .owned other), ("target", target.code)] false
  | conditionalRange other target min max =>
    .struct (codePath "ConditionalRange")
      [("other", .owned other), ("target", target.code), ("min", .float min), ("max", .float max)] true

end Rule

def MessageSource.code : MessageSource → DataExpr
  | literal template => .apply (library ["MessageSource", "Literal"]) (.owned template)
  | resource key => .apply (library ["MessageSource", "Resource"]) (.owned key)

def Constraint.code (c : Constraint) : DataExpr :=
  .struct (library ["Constraint"])
    [("kind", c.rule.code), ("message", .option MessageSource.code c.message),
      ("severity", c.severity.code), ("group", .option .owned c.group)] true

def ValidatorRef.code (v : ValidatorRef) : DataExpr :=
  .struct (library ["CustomValidatorRef"]) [("name", .owned v.name), ("is_async", .flag v.isAsync)] false

def FieldDeclaration.code (f : FieldDeclaration) : DataExpr :=
  .struct (library ["FieldDeclaration"])
    [("name", .owned f.name), ("field_type", f.fieldType.code), ("nullable", .flag f.nullable),
      ("display_name", .option .owned f.displayName),
      ("constraints", .vector (f.constraints.map Constraint.code)),
      ("sanitize", .option Directive.code f.sanitize),
      ("custom_validators", .vector (f.validators.map ValidatorRef.code))] true

def ModelDeclaration.code (d : ModelDeclaration) : DataExpr :=
  .struct (library ["ModelDeclaration"])
    [("name", .owned d.name), ("fields", .vector (d.fields.map FieldDeclaration.code)),
      ("model_hook", .option .owned d.hook)] true

def Format.code : Format → DataExpr
  | email => .constant (library ["FormatKind", "Email"])
  | url => .constant (library ["FormatKind", "Url"])
  | creditCard => .constant (library ["FormatKind", "CreditCard"])
  | phone => .constant (library ["FormatKind", "Phone"])
  | fileExtension => .constant (library ["FormatKind", "FileExtension"])
  | futureDate => .constant (library ["FormatKind", "FutureDate"])

def Condition.code (c : Condition) : DataExpr :=
  .struct (library ["ConditionSummary"])
    [("other", .owned c.other), ("target", c.target.code), ("required", .flag c.required),
      ("numeric_min", .option .float c.numericMin), ("numeric_max", .option .float c.numericMax)] true

def FieldSummary.code (s : FieldSummary) : DataExpr :=
  .struct (library ["FieldSummary"])
    [("name", .owned s.name), ("display_name", .owned s.displayName), ("field_type", s.fieldType.code),
      ("nullable", .flag s.nullable), ("has_required", .flag s.hasRequired),
      ("string_min", .option .size s.stringMin), ("string_max", .option .size s.stringMax),
      ("numeric_min", .option .float s.numericMin), ("numeric_max", .option .float s.numericMax),
      ("formats", .vector (s.formats.map Format.code)), ("allowed_values", .owneds s.allowedValues),
      ("file_extensions", .owneds s.fileExtensions),
      ("conditions", .vector (s.conditions.map Condition.code)), ("groups", .owneds s.groups)] true

def Summary.code (s : Summary) : DataExpr :=
  .struct (library ["ConstraintSummary"])
    [("model", .owned s.model), ("fields", .vector (s.fields.map FieldSummary.code))] true

end FieldRules
