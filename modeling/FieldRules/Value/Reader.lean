import FieldRules.Double.Reader
import FieldRules.Value.Shape

/-!
# Typed values from texts

Each shape reads a text in its own way. What is missing can only be read as an optional or dynamic value.
-/
set_option autoImplicit false

namespace FieldRules

def Value.readBool? (s : String) : Option Bool :=
  if s == "true" then some true else if s == "false" then some false else none

def Bounded.read? (kind : IntKind) (s : String) : Option (Bounded kind) := do
  let i ← (match s.toList with
    | '+' :: digits => String.ofList digits
    | _ => s).toInt?
  if h : kind.holds i = true then some ⟨i, h⟩ else none

/-- Reads a value of a shape. `own` gives the dynamic value that a text stands for where the shape does not
say it. -/
def Shape.read? (own : String → Value) : (s : Shape) → Option String → Option s.Carrier
  | .option inner, some t => (inner.read? own (some t)).map (fun c => (some c : Option inner.Carrier))
  | .option inner, none => some (none : Option inner.Carrier)
  | .boxed inner, t => (inner.read? own t).map (fun c => (⟨c⟩ : Boxed inner.Carrier))
  | .value, none => some Value.null
  | _, none => none
  | .value, some t => some (own t)
  | .custom, some t => some (⟨own t⟩ : Custom)
  | .text, some t => some (t : String)
  | .bool, some t => Value.readBool? t
  | .int kind, some t => Bounded.read? kind t
  | .single, some t => Single.read? t
  | .double, some t => Double.read? t
  | .day, some t => Day.read? t
  | .localTime, some t => LocalTime.read? t
  | .instant, some t => Instant.read? t

def Typed.read? (own : String → Value) (s : Shape) (text : Option String) : Option Typed :=
  (s.read? own text).map (Typed.mk s)

end FieldRules
