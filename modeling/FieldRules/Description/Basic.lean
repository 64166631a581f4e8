import FieldRules.Document.Basic
import FieldRules.Value.Basic

/-!
# Descriptions

A description shows a thing to people and tools: a document that is complete, in which numbers are exact
texts and kinds go by their names. It is made to be looked at; stored forms are made to be read back.
-/
set_option autoImplicit false

namespace FieldRules

class Describe (α : Type) where
  describe : α → Document

export Describe (describe)

namespace Description

variable {α β : Type}

/-- A document with keys, separated by blanks, and a value for each. -/
def members (keys : String) (values : List Document) : Document :=
  .map ((keys.splitOn " ").zip values)

instance : Describe Document := ⟨id⟩

instance : Describe String := ⟨.text⟩

instance : Describe Bool := ⟨.bool⟩

instance : Describe Nat := ⟨fun n => .int n⟩

instance : Describe Double := ⟨fun x => .text x.plain⟩

instance : Describe UInt64 := ⟨fun n => .text (toString n.toNat)⟩

instance : Describe Instant := ⟨fun t => .text t.display⟩

instance : Describe FieldType := ⟨fun t => .text t.name⟩

instance [Describe α] : Describe (Option α) := ⟨fun a => a.elim .null describe⟩

instance [Describe α] : Describe (List α) := ⟨fun l => .list (l.map describe)⟩

instance [Describe α] [Describe β] : Describe (α × β) := ⟨fun p => .list [describe p.1, describe p.2]⟩

/-- Integers, other numbers and dates are named by their kind. -/
instance : Describe Value where
  describe
    | .null => .null
    | .bool b => .bool b
    | .text s => .text s
    | .int i => members "int" [.text (toString i.toInt)]
    | .float x => members "float" [describe x]
    | .date t => members "date" [describe t]

end Description
end FieldRules
