import FieldRules.Value.Access

/-!
# Shapes of fields

The types a field of a model can be declared with: the built-in ones under any nesting of optional and
boxed, and types of the user's own.
-/
set_option autoImplicit false

namespace FieldRules

inductive Shape where
  | text
  | bool
  | int (kind : IntKind)
  | single
  | double
  | day
  | localTime
  | instant
  | value
  | custom
  | option (inner : Shape)
  | boxed (inner : Shape)
  deriving DecidableEq

namespace Shape

def Carrier : Shape → Type
  | text => String
  | bool => Bool
  | int kind => Bounded kind
  | single => Single
  | double => Double
  | day => Day
  | localTime => LocalTime
  | instant => Instant
  | value => Value
  | custom => Custom
  | option inner => Option inner.Carrier
  | boxed inner => Boxed inner.Carrier

instance access : (s : Shape) → FieldValue s.Carrier
  | text => inferInstanceAs (FieldValue String)
  | bool => inferInstanceAs (FieldValue Bool)
  | int kind => inferInstanceAs (FieldValue (Bounded kind))
  | single => inferInstanceAs (FieldValue Single)
  | double => inferInstanceAs (FieldValue Double)
  | day => inferInstanceAs (FieldValue Day)
  | localTime => inferInstanceAs (FieldValue LocalTime)
  | instant => inferInstanceAs (FieldValue Instant)
  | value => inferInstanceAs (FieldValue Value)
  | custom => inferInstanceAs (FieldValue Custom)
  | option inner =>
    letI := access inner
    inferInstanceAs (FieldValue (Option inner.Carrier))
  | boxed inner =>
    letI := access inner
    inferInstanceAs (FieldValue (Boxed inner.Carrier))

def isBuiltIn : Shape → Bool
  | custom => false
  | option inner => inner.isBuiltIn
  | boxed inner => inner.isBuiltIn
  | _ => true

end Shape

structure Typed where
  shape : Shape
  content : shape.Carrier

instance : FieldValue Typed where
  toValue t := FieldValue.toValue t.content
  isNull t := FieldValue.isNull t.content
  text? t := FieldValue.text? t.content
  number? t := FieldValue.number? t.content
  instant? t := FieldValue.instant? t.content
  display? t := FieldValue.display? t.content
  sanitize d t := ⟨t.shape, FieldValue.sanitize d t.content⟩

end FieldRules
