import FieldRules.Keyed

/-!
# Services

What custom validators may ask for while they run. Services are told apart by their types.
-/
set_option autoImplicit false

namespace FieldRules

inductive ServiceType where
  | text
  | number
  | flag
  /-- A store of names that are taken. -/
  | names
  deriving DecidableEq

def ServiceType.Carrier : ServiceType → Type
  | text => String
  | number => UInt32
  | flag => Bool
  | names => List String

structure Service where
  type : ServiceType
  content : type.Carrier

structure Services where
  entries : List Service

namespace Services

def empty : Services :=
  ⟨[]⟩

def get? (s : Services) (t : ServiceType) : Option t.Carrier :=
  s.entries.findSome? fun e => if h : e.type = t then some (h ▸ e.content) else none

def contains (s : Services) (t : ServiceType) : Bool :=
  s.entries.any fun e => e.type = t

def insert (s : Services) (t : ServiceType) (content : t.Carrier) : Services :=
  ⟨⟨t, content⟩ :: s.entries.filter fun e => e.type ≠ t⟩

def size (s : Services) : Nat :=
  s.entries.length

end Services
end FieldRules
