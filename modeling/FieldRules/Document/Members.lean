import FieldRules.Document.Basic
import FieldRules.IntKind

/-!
# Members of structures

A structure is stored as a map, or as a list of its members in order. A member that is read stands at
most once; members that nobody reads are passed over.
-/
set_option autoImplicit false

namespace FieldRules

/-- How a document names a variant: by the key of a map of one entry, or by a tag. Where there is no null,
the entry of a variant without content is empty. -/
inductive VariantForm where
  | entry
  | emptyEntry
  | tag
  deriving DecidableEq

abbrev Members := List (String × Document)

namespace Members

def get? (m : Members) (name : String) : Option Document :=
  m.lookup name

def required {α : Type} (m : Members) (name : String) (read : Document → Option α) : Option α :=
  (m.get? name).bind read

/-- A member that has a value of its own when it is not there. -/
def orElse {α : Type} (m : Members) (name : String) (read : Document → Option α) (absent : α) :
    Option α :=
  match m.get? name with
  | some d => read d
  | none => some absent

end Members

namespace Document

def isNull (d : Document) : Bool :=
  match d.meaning with
  | null => true
  | _ => false

def optional? {α : Type} (read : Document → Option α) (d : Document) : Option (Option α) :=
  if d.isNull then some none else (read d).map some

/-- The entries of a structure with members of the given names, none of them twice. -/
def members? (names : List String) (d : Document) : Option Members :=
  match d.map? with
  | some entries =>
    if names.all fun name => (entries.filter fun e => e.1 == name).length ≤ 1 then some entries else none
  | none =>
    match d.list? with
    | some items => if items.length ≤ names.length then some (names.zip items) else none
    | none => none

def items? {α : Type} (read : Document → Option α) (d : Document) : Option (List α) :=
  d.list?.bind fun items => items.mapM read

def size? (d : Document) : Option UInt64 :=
  match d.meaning with
  | int i => if (IntKind.unsigned 64).holds i then some (UInt64.ofNat i.toNat) else none
  | _ => none

def index? (d : Document) : Option Nat :=
  d.size?.map UInt64.toNat

/-- A number; integers are rounded to the nearest one. -/
def double? (d : Document) : Option Double :=
  match d.meaning with
  | int i => some (Double.ofInt i)
  | float x => some x
  | _ => none

def isEmpty : Document → Bool
  | list [] => true
  | map [] => true
  | _ => false

def unitVariant? (form : VariantForm) (d : Document) : Option String :=
  match form, d with
  | _, text s => some s
  | _, word spelling _ => some spelling
  | .entry, map [(name, content)] => if content.isNull then some name else none
  | .emptyEntry, map [(name, content)] => if content.isEmpty then some name else none
  | .tag, tagged name content => if content.isNull then some name else none
  | _, _ => none

def variant? (form : VariantForm) (d : Document) : Option (String × Document) :=
  match form, d with
  | .entry, map [(name, content)] => some (name, content)
  | .emptyEntry, map [(name, content)] => some (name, content)
  | .tag, tagged name content => some (name, content)
  | _, _ => none

mutual

/-- The tree with every word replaced by its meaning. Nodes under a tag have none. -/
def resolved? : Document → Option Document
  | list items => (resolvedItems? items).map list
  | map entries => (resolvedEntries? entries).map map
  | word _ meaning => meaning.resolved?
  | tagged _ _ => none
  | irregular => none
  | d => some d

def resolvedItems? : List Document → Option (List Document)
  | [] => some []
  | d :: rest => do
    let d ← d.resolved?
    let rest ← resolvedItems? rest
    some (d :: rest)

def resolvedEntries? : List (String × Document) → Option (List (String × Document))
  | [] => some []
  | (key, d) :: rest => do
    let d ← d.resolved?
    let rest ← resolvedEntries? rest
    some ((key, d) :: rest)

end

def unlessNone {α : Type} (name : String) (write : α → Document) (a : Option α) : Members :=
  match a with
  | some a => [(name, write a)]
  | none => []

def unlessEmpty {α : Type} (name : String) (write : α → Document) (items : List α) : Members :=
  if items.isEmpty then [] else [(name, list (items.map write))]

def orNull {α : Type} (write : α → Document) (a : Option α) : Document :=
  (a.map write).getD null

def size (n : UInt64) : Document :=
  int n.toNat

end Document

/-- A member that may be null or not be there. -/
def Members.optional {α : Type} (m : Members) (name : String) (read : Document → Option α) :
    Option (Option α) :=
  m.orElse name (Document.optional? read) none

end FieldRules
