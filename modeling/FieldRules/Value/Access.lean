import FieldRules.Sanitize
import FieldRules.Value.Basic

/-!
# Typed fields

Rules read a field through the views of `FieldValue`. A type needs only its dynamic value; the built-in
types also answer some views themselves.
-/
set_option autoImplicit false

namespace FieldRules

class FieldValue (α : Type) where
  toValue : α → Value
  isNull : α → Bool := fun _ => false
  text? : α → Option String := fun _ => none
  number? : α → Option Double := fun _ => none
  instant? : α → Option Instant := fun _ => none
  display? : α → Option String := fun a => (toValue a).display?
  sanitize : Directive → α → α := fun _ a => a

structure Bounded (k : IntKind) where
  val : Int
  inRange : k.holds val = true

/-- A value behind a pointer, which reads as what it points to. -/
structure Boxed (α : Type) where
  content : α

/-- A value of a type of the user's own, which only has a dynamic value. -/
structure Custom where
  reading : Value

namespace Value

def sanitize (d : Directive) : Value → Value
  | text s => text (d.clean s)
  | v => v

end Value

instance : FieldValue Value where
  toValue v := v
  isNull := Value.isNull
  text? := Value.text?
  number? := Value.number?
  instant? := Value.instant?
  display? := Value.display?
  sanitize := Value.sanitize

instance : FieldValue String where
  toValue := .text
  text? := some
  display? := some
  sanitize := Directive.clean

instance : FieldValue Bool where
  toValue := .bool

instance (k : IntKind) : FieldValue (Bounded k) where
  toValue n := .ofInt n.val
  number? n := some (Double.ofInt n.val)

instance : FieldValue Single where
  toValue x := .float x.widened
  number? x := some x.widened

instance : FieldValue Double where
  toValue := .float
  number? := some

instance : FieldValue Instant where
  toValue := .date
  instant? := some

instance : FieldValue LocalTime where
  toValue t := .date t.asUniversal
  instant? t := some t.asUniversal

instance : FieldValue Day where
  toValue d := .date d.start
  instant? d := some d.start

instance : FieldValue Custom where
  toValue c := c.reading

instance {α : Type} [FieldValue α] : FieldValue (Option α) where
  toValue
    | some a => FieldValue.toValue a
    | none => .null
  isNull
    | some a => FieldValue.isNull a
    | none => true
  text? a := a.bind FieldValue.text?
  number? a := a.bind FieldValue.number?
  instant? a := a.bind FieldValue.instant?
  display? a := a.bind FieldValue.display?
  sanitize d a := a.map (FieldValue.sanitize d)

instance {α : Type} [FieldValue α] : FieldValue (Boxed α) where
  toValue a := FieldValue.toValue a.content
  isNull a := FieldValue.isNull a.content
  text? a := FieldValue.text? a.content
  number? a := FieldValue.number? a.content
  instant? a := FieldValue.instant? a.content
  display? a := FieldValue.display? a.content
  sanitize d a := ⟨FieldValue.sanitize d a.content⟩

end FieldRules
