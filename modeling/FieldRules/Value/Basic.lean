import FieldRules.Calendar.Reader
import FieldRules.Double.Text
import FieldRules.IntKind

/-!
# Field values

The values a field can hold when its type is only known at run time, the declared types, and the
comparison that conditional rules make.
-/
set_option autoImplicit false

namespace FieldRules

inductive FieldType where
  | string
  | int
  | float
  | bool
  | date
  | enum
  | other
  deriving DecidableEq

namespace FieldType

instance : Inhabited FieldType :=
  ⟨other⟩

def all : List FieldType :=
  [string, int, float, bool, date, enum, other]

def name : FieldType → String
  | string => "string"
  | int => "int"
  | float => "float"
  | bool => "bool"
  | date => "date"
  | enum => "enum"
  | other => "other"

def ofName? (name : String) : Option FieldType :=
  all.find? fun t => t.name == name

def isTextual : FieldType → Bool
  | string | enum | other => true
  | _ => false

def isNumeric : FieldType → Bool
  | int | float | other => true
  | _ => false

theorem ofName?_name (t : FieldType) : ofName? t.name = some t := by
  cases t <;> rfl

end FieldType

inductive Value where
  | null
  | bool (b : Bool)
  | int (i : Int64)
  | float (x : Double)
  | text (s : String)
  | date (t : Instant)
  deriving DecidableEq

namespace Value

instance : Inhabited Value :=
  ⟨null⟩

/-- The value of an integer: the integer itself if 64 bits hold it, else the nearest number. -/
def ofInt (i : Int) : Value :=
  if (IntKind.signed 64).holds i then int (Int64.ofInt i) else float (Double.ofInt i)

def kindName : Value → String
  | null => "null"
  | bool _ => "bool"
  | int _ => "int"
  | float _ => "float"
  | text _ => "string"
  | date _ => "date"

def isNull : Value → Bool
  | null => true
  | _ => false

def text? : Value → Option String
  | text s => some s
  | _ => none

def bool? : Value → Option Bool
  | bool b => some b
  | _ => none

/-- The number of a numeric value; an integer is rounded to the nearest number. -/
def number? : Value → Option Double
  | int i => some (Double.ofInt i.toInt)
  | float x => some x
  | _ => none

def instant? : Value → Option Instant
  | date t => some t
  | text s => Instant.read? s
  | _ => none

def boolText (b : Bool) : String :=
  if b then "true" else "false"

def display? : Value → Option String
  | null => none
  | bool b => some (boolText b)
  | int i => some (toString i.toInt)
  | float x => some x.plain
  | text s => some s
  | date t => some t.display

def display (v : Value) : String :=
  v.display?.getD "null"

def sameIgnoringCase (s t : String) : Bool :=
  s.toList.map Char.toLower == t.toList.map Char.toLower

def textNumber? (s : String) : Option Double :=
  Double.read? (Text.trim s)

def textEqualsNumber (s : String) (x : Double) : Bool :=
  match textNumber? s with
  | some y => y.same x
  | none => false

def textEqualsBool (s : String) (b : Bool) : Bool :=
  sameIgnoringCase s (boolText b)

def textEqualsDate (s : String) (t : Instant) : Bool :=
  s == t.display || Instant.read? s == some t

/-- The comparison of conditional rules: like values by their kind, integers and other numbers by
their numeric value, and a text with what it spells. Null equals only null. -/
def looseEq : Value → Value → Bool
  | null, null => true
  | text a, text b => a == b
  | bool a, bool b => a == b
  | date a, date b => a == b
  | int a, int b => a == b
  | int a, float b => (Double.ofInt a.toInt).same b
  | float a, int b => a.same (Double.ofInt b.toInt)
  | float a, float b => a.same b
  | text s, int i => textEqualsNumber s (Double.ofInt i.toInt)
  | int i, text s => textEqualsNumber s (Double.ofInt i.toInt)
  | text s, float x => textEqualsNumber s x
  | float x, text s => textEqualsNumber s x
  | text s, bool b => textEqualsBool s b
  | bool b, text s => textEqualsBool s b
  | text s, date t => textEqualsDate s t
  | date t, text s => textEqualsDate s t
  | _, _ => false

/-- Equality of declared data: as the equality of values, except that numbers are compared as numbers. -/
def same : Value → Value → Bool
  | float a, float b => a.same b
  | a, b => a == b

end Value
end FieldRules
