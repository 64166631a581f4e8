import FieldRules.Keyed
import FieldRules.Value.Access

/-!
# Records

A record is an instance of a model whose fields are reached by name. A dynamic record is one whose
fields are only known at run time.
-/
set_option autoImplicit false

namespace FieldRules

class Record (ρ : Type) where
  modelName : ρ → String
  /-- The value of a field; unknown names have none. -/
  fieldValue? : ρ → String → Option Value
  /-- The record after a directive on a field; unknown names have none. -/
  sanitizeField? : ρ → String → Directive → Option ρ

namespace Record

variable {ρ : Type} [Record ρ]

/-- The value of a field, null for an unknown name. -/
def read (r : ρ) (name : String) : Value :=
  (fieldValue? r name).getD .null

def sanitized (r : ρ) (name : String) (d : Directive) : ρ :=
  (sanitizeField? r name d).getD r

end Record

/-- What a hook sees of a record. -/
structure RecordView where
  modelName : String
  fieldValue? : String → Option Value

def Record.view {ρ : Type} [Record ρ] (r : ρ) : RecordView :=
  ⟨modelName r, fieldValue? r⟩

structure DynamicRecord where
  name : String
  fields : Keyed Value
  deriving DecidableEq

namespace DynamicRecord

def empty (name : String) : DynamicRecord :=
  ⟨name, []⟩

def get? (r : DynamicRecord) (field : String) : Option Value :=
  r.fields.get? field

def set (r : DynamicRecord) (field : String) (v : Value) : DynamicRecord :=
  { r with fields := r.fields.insert field v }

/-- An absent field reads as null. -/
instance : Record DynamicRecord where
  modelName := name
  fieldValue? r field := some ((r.get? field).getD .null)
  sanitizeField? r field d := (r.get? field).map fun v => r.set field (v.sanitize d)

end DynamicRecord
end FieldRules
