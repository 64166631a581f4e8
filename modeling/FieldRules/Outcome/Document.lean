import FieldRules.Outcome
import FieldRules.Rule.Document

/-!
# Outcomes in documents
-/
set_option autoImplicit false

namespace FieldRules

namespace Entry

def names : List String :=
  ["field", "message", "severity"]

def toDocument (e : Entry) : Document :=
  .map [("field", .text e.field), ("message", .text e.message), ("severity", e.severity.toDocument)]

def ofDocument? (form : VariantForm) (d : Document) : Option Entry := do
  let m ← d.members? names
  let field ← m.required "field" Document.text?
  let message ← m.required "message" Document.text?
  let severity ← m.orElse "severity" (Severity.ofDocument? form) .error
  some { field, message, severity }

end Entry

namespace Outcome

def toDocument (o : Outcome) : Document :=
  .map [("errors", .list (o.entries.map Entry.toDocument))]

def ofDocument? (form : VariantForm) (d : Document) : Option Outcome := do
  let m ← d.members? ["errors"]
  let entries ← m.required "errors" (Document.items? (Entry.ofDocument? form))
  some ⟨entries⟩

end Outcome
end FieldRules
