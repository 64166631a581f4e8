import FieldRules.Calendar.Instant
import FieldRules.Document.Basic
import FieldRules.Message
import FieldRules.Services

/-!
# Contexts

What a validation is given besides the record: services, items of the caller, the active group, the
message catalog, the clock, and what becomes of failing validators.
-/
set_option autoImplicit false

namespace FieldRules

/-- What becomes of a custom validator that could not do its work. -/
inductive FaultPolicy where
  /-- The field counts as valid. -/
  | absorb
  /-- The field gets an error. -/
  | report
  deriving DecidableEq

namespace FaultPolicy

instance : Inhabited FaultPolicy :=
  ⟨absorb⟩

def all : List FaultPolicy :=
  [absorb, report]

def name : FaultPolicy → String
  | absorb => "absorb"
  | report => "report"

def ofName? (name : String) : Option FaultPolicy :=
  all.find? fun p => p.name == name

def read? (text : String) : Option FaultPolicy :=
  ofName? ((Text.trim text).map Char.toLower)

end FaultPolicy

structure Context where
  services : Services := .empty
  items : Keyed Document := []
  group : Option String := none
  catalog : Option Catalog := none
  /-- The instant that dates are compared with, once it is fixed. -/
  clock : Option Instant := none
  policy : FaultPolicy := .absorb

namespace Context

/-- The instant that dates are compared with; a context whose clock nobody set stands at 1970. -/
def now (c : Context) : Instant :=
  c.clock.getD .epoch

def activates (c : Context) (k : Constraint) : Bool :=
  k.isActive c.group

end Context
end FieldRules
