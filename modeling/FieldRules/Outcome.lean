import FieldRules.Rule.Basic

/-!
# Outcomes

The entries that a validation leaves, in order. Only entries of error severity make an outcome invalid.
-/
set_option autoImplicit false

namespace FieldRules

/-- A failed check. The field is empty for entries about the model, and for entries of a custom validator
that have not been given their field yet. -/
structure Entry where
  field : String
  message : String
  severity : Severity := .error
  deriving DecidableEq

namespace Entry

def isError (e : Entry) : Bool :=
  e.severity == .error

def display (e : Entry) : String :=
  if e.field.isEmpty then s!"[{e.severity.name}] {e.message}"
  else s!"[{e.severity.name}] {e.field}: {e.message}"

def within (container : String) (e : Entry) : Entry :=
  { e with field := if e.field.isEmpty then container else container ++ "." ++ e.field }

def attributeTo (field : String) (e : Entry) : Entry :=
  if e.field.isEmpty then { e with field := field } else e

end Entry

structure Outcome where
  entries : List Entry
  deriving DecidableEq

namespace Outcome

def empty : Outcome :=
  ⟨[]⟩

def failure (field message : String) : Outcome :=
  ⟨[{ field, message }]⟩

def push (o : Outcome) (e : Entry) : Outcome :=
  ⟨o.entries ++ [e]⟩

def extend (o : Outcome) (entries : List Entry) : Outcome :=
  ⟨o.entries ++ entries⟩

def merge (o inner : Outcome) : Outcome :=
  o.extend inner.entries

/-- Appends the outcome of a nested model under the name of the field that holds it. -/
def mergeWithin (o : Outcome) (container : String) (inner : Outcome) : Outcome :=
  o.extend (inner.entries.map (·.within container))

def attributeTo (o : Outcome) (field : String) : Outcome :=
  ⟨o.entries.map (·.attributeTo field)⟩

def isValid (o : Outcome) : Bool :=
  !o.entries.any Entry.isError

def entriesFor (o : Outcome) (field : String) : List Entry :=
  o.entries.filter fun e => e.field == field

def withSeverity (o : Outcome) (s : Severity) : List Entry :=
  o.entries.filter fun e => e.severity == s

def errorCount (o : Outcome) : Nat :=
  (o.withSeverity .error).length

def warningCount (o : Outcome) : Nat :=
  (o.withSeverity .warning).length

def display (o : Outcome) : String :=
  if o.entries.isEmpty then "valid" else "\n".intercalate (o.entries.map Entry.display)

end Outcome

/-- What a validation leaves: the record, its entries, and what was noted on the way. -/
structure Validated (ρ : Type) where
  record : ρ
  outcome : Outcome
  warnings : List String

end FieldRules
