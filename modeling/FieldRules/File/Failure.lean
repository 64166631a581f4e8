import FieldRules.File.Format

/-!
# Failures

What can go wrong while settings, catalogs, declarations and records are read.
-/
set_option autoImplicit false

namespace FieldRules

inductive Failure where
  /-- There is no such file. -/
  | noFile (path : String)
  /-- The extension of a path names no format. -/
  | unsupportedFormat (path : String)
  /-- The text is not of the format, or does not hold what is read from it. -/
  | unreadable (format : FileFormat)
  /-- A setting or a record has a value that it may not have. -/
  | configuration (reason : String)
  deriving DecidableEq

def Failure.message? : Failure → Option String
  | noFile _ => none
  | unsupportedFormat path =>
    some s!"Unsupported file format for {path}: expected .toml, .yaml, .yml or .json"
  | unreadable _ => none
  | configuration reason => some ("Configuration error: " ++ reason)

abbrev Files := String → Option String

def FileFormat.parse {α : Type} (format : FileFormat) (read : VariantForm → Document → Option α)
    (text : String) : Except Failure α :=
  match (format.read? text).bind (read format.form) with
  | some a => .ok a
  | none => .error (.unreadable format)

def Files.load {α : Type} (files : Files) (read : VariantForm → Document → Option α) (path : String) :
    Except Failure α :=
  match FileFormat.ofPath? path with
  | none => .error (.unsupportedFormat path)
  | some format =>
    match files path with
    | none => .error (.noFile path)
    | some text => format.parse read text

end FieldRules
