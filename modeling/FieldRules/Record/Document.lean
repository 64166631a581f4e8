import FieldRules.Document.Members
import FieldRules.Record.Basic
import FieldRules.Value.Document

/-!
# Records in documents

A dynamic record is stored under its name. It can also be made from a plain map of its fields.
-/
set_option autoImplicit false

namespace FieldRules

namespace Document

/-- A map from texts to what the reader makes of its values; the last entry of a key counts. -/
def keyed? {α : Type} (read : Document → Option α) (d : Document) : Option (Keyed α) := do
  let entries ← d.map?
  let entries ← entries.mapM fun (e : String × Document) => (read e.2).map fun a => (e.1, a)
  some (Keyed.ofList entries)

end Document

namespace DynamicRecord

def names : List String :=
  ["name", "fields"]

def toDocument (r : DynamicRecord) : Document :=
  .map [("name", .text r.name), ("fields", .map (r.fields.map fun (key, v) => (key, v.toDocument)))]

def ofDocument? (d : Document) : Option DynamicRecord := do
  let m ← d.members? names
  let name ← m.required "name" Document.text?
  let fields ← m.required "fields" (Document.keyed? Value.ofDocument?)
  some { name, fields }

def toPlain (r : DynamicRecord) : Document :=
  Document.sorted (.map (r.fields.map fun (key, v) => (key, v.toPlain)))

def ofPlain? (name : String) : Document → Option DynamicRecord
  | .map entries => some ⟨name, Keyed.ofList (entries.map fun (key, d) => (key, Value.ofPlain d))⟩
  | _ => none

end DynamicRecord
end FieldRules
