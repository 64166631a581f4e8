import FieldRules.Double.Basic

/-!
# Document trees

The tree that JSON, YAML and TOML texts are read into, and that declarations, plans and values are
written to.
-/
set_option autoImplicit false

namespace FieldRules

/-- A node of a document. `word` is an unquoted word that also has a meaning, so a reader that wants a
text takes its spelling. `tagged` is a node under a name of its own. `irregular` is well formed but has
no value: it may only stand where nothing reads it. -/
inductive Document where
  | null
  | bool (b : Bool)
  | int (i : Int)
  | float (x : Double)
  | text (s : String)
  | list (items : List Document)
  | map (entries : List (String × Document))
  | word (spelling : String) (meaning : Document)
  | tagged (name : String) (content : Document)
  | irregular

namespace Document

instance : Inhabited Document :=
  ⟨null⟩

def number (x : Double) : Document :=
  if x.isFinite then float x else null

mutual

def regular : Document → Bool
  | list items => regularItems items
  | map entries => regularEntries entries
  | word _ meaning => meaning.regular
  | tagged _ content => content.regular
  | irregular => false
  | _ => true

def regularItems : List Document → Bool
  | [] => true
  | d :: rest => d.regular && regularItems rest

def regularEntries : List (String × Document) → Bool
  | [] => true
  | (_, d) :: rest => d.regular && regularEntries rest

end

def insertSorted (key : String) (d : Document) : List (String × Document) → List (String × Document)
  | [] => [(key, d)]
  | (k, e) :: rest =>
    if key < k then (key, d) :: (k, e) :: rest
    else if key = k then (key, d) :: rest
    else (k, e) :: insertSorted key d rest

mutual

/-- The same tree with the entries of each map in the order of their keys, the last of each key kept. -/
def sorted : Document → Document
  | list items => list (sortedItems items)
  | map entries => map (sortedEntries entries [])
  | d => d

def sortedItems : List Document → List Document
  | [] => []
  | d :: rest => d.sorted :: sortedItems rest

def sortedEntries : List (String × Document) → List (String × Document) → List (String × Document)
  | [], done => done
  | (k, d) :: rest, done => sortedEntries rest (insertSorted k d.sorted done)

end

/-- The document read without regard to the spelling of its words. -/
def meaning : Document → Document
  | word _ d => d.meaning
  | d => d

def untagged : Document → Document
  | tagged _ content => content.untagged
  | d => d

def text? (d : Document) : Option String :=
  match d.untagged with
  | text s => some s
  | word spelling _ => some spelling
  | _ => none

def bool? (d : Document) : Option Bool :=
  match d.untagged.meaning with
  | bool b => some b
  | _ => none

/-- The items of a list; a place where nothing is written is an empty list. -/
def list? (d : Document) : Option (List Document) :=
  match d.untagged with
  | list items => some items
  | word "" _ => some []
  | _ => none

/-- The entries of a map; a place where nothing is written is an empty map. -/
def map? (d : Document) : Option (List (String × Document)) :=
  match d.untagged with
  | map entries => some entries
  | word "" _ => some []
  | _ => none

def lookup (entries : List (String × Document)) (key : String) : List Document :=
  (entries.filter fun entry => entry.1 == key).map Prod.snd

end Document
end FieldRules
