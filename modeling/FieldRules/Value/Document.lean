import FieldRules.Document.Json.Printer
import FieldRules.Value.Basic

/-!
# Values in documents

A stored value is a scalar, and a date is a map with the one key `date`. Values of plain JSON trees are
read more freely: lists and maps are kept as their JSON text.
-/
set_option autoImplicit false

namespace FieldRules

namespace Value

def toDocument : Value → Document
  | null => .null
  | bool b => .bool b
  | int i => .int i.toInt
  | float x => .number x
  | text s => .text s
  | date t => .map [("date", .text t.stored)]

def storedDate? (d : Document) : Option Value :=
  match d.meaning with
  | .text s => (Instant.readStored? s).map date
  | _ => none

/-- The value that a node stores: a scalar, or a date in a map or list of its own. -/
def ofDocument? (d : Document) : Option Value :=
  match d.meaning with
  | .null => some null
  | .bool b => some (bool b)
  | .int i => some (ofInt i)
  | .float x => some (float x)
  | .text s => some (text s)
  | .map [(key, d)] => if key == "date" then storedDate? d else none
  | .list [d] => storedDate? d
  | _ => none

def ofPlain : Document → Value
  | .null => null
  | .bool b => bool b
  | .int i => ofInt i
  | .float x => float x
  | .text s => text s
  | d => text (Json.print d)

/-- The plain form of a value: a date is its text, and a number that JSON does not have is null. -/
def toPlain : Value → Document
  | null => .null
  | bool b => .bool b
  | int i => .int i.toInt
  | float x => .number x
  | text s => .text s
  | date t => .text t.display

end Value
end FieldRules
