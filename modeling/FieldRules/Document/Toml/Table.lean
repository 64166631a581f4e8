import FieldRules.Document.Basic

/-!
# Tables of TOML

Tables grow while a text is read: headers and dotted keys name places in them, and a place is defined
once.
-/
set_option autoImplicit false

namespace FieldRules.Toml

/-- How a table came to be: from a longer header, from a dotted key, or from its own header. -/
inductive Standing where
  | implied
  | dotted
  | defined
  deriving DecidableEq

inductive Item where
  | value (d : Document)
  | table (standing : Standing) (entries : List (String × Item))
  /-- The tables under a header in double brackets, the last one first. -/
  | tables (entries : List (List (String × Item)))

abbrev Entries := List (String × Item)

mutual

def Item.toDocument : Item → Document
  | .value d => d
  | .table _ entries => .map (entriesToDocument entries)
  | .tables l => .list (tablesToDocument l).reverse

def entriesToDocument : List (String × Item) → List (String × Document)
  | [] => []
  | (key, i) :: rest => (key, i.toDocument) :: entriesToDocument rest

def tablesToDocument : List (List (String × Item)) → List Document
  | [] => []
  | entries :: rest => .map (entriesToDocument entries) :: tablesToDocument rest

end

namespace Entries

/-- The entries with the item of a key changed, or with a new one at the end. -/
def update? (key : String) (change : Option Item → Option Item) : Entries → Option Entries
  | [] => (change none).map fun i => [(key, i)]
  | (k, i) :: rest =>
    if k = key then (change (some i)).map fun i => (k, i) :: rest
    else (update? key change rest).map ((k, i) :: ·)

def create? (change : Entries → Option Entries) (standing : Standing) : Option Item :=
  (change []).map (.table standing)

/-- Changes the table at the end of the path of a header; tables on the way are implied. Of several tables
under one header the last one is meant. -/
def within? (change : Entries → Option Entries) : List String → Entries → Option Entries
  | [], e => change e
  | key :: path, e =>
    e.update? key fun
      | none => create? (within? change path) .implied
      | some (.table standing e) => (within? change path e).map (.table standing)
      | some (.tables (last :: rest)) => (within? change path last).map fun last => .tables (last :: rest)
      | some _ => none

def put? (key : String) (d : Document) : Entries → Option Entries :=
  update? key fun
    | none => some (.value d)
    | some _ => none

/-- Sets the value at a dotted key. The tables on the way are made by dotted keys alone; only a table
implied by a header may be passed through. -/
def putDotted? (d : Document) (key : String) : List String → Standing → Entries → Option Entries
  | [], standing, e => if standing = .dotted then e.put? key d else none
  | k :: path, _, e =>
    e.update? k fun
      | none => create? (putDotted? d key path .dotted) .dotted
      | some (.table .defined _) => none
      | some (.table standing e) => (putDotted? d key path standing e).map (.table standing)
      | some (.tables (last :: rest)) =>
        (putDotted? d key path .defined last).map fun last => .tables (last :: rest)
      | some _ => none

def set? (path : List String) (key : String) (d : Document) (e : Entries) : Option Entries :=
  match path with
  | [] => e.put? key d
  | path => e.putDotted? d key path .defined

/-- Opens a table under a header. It is new, or was only implied so far. -/
def define? (path : List String) (key : String) : Entries → Option Entries :=
  within? (fun e => e.update? key fun
    | none => some (.table .defined [])
    | some (.table .implied e) => some (.table .defined e)
    | some _ => none) path

/-- Opens one more table under a header in double brackets. -/
def append? (path : List String) (key : String) : Entries → Option Entries :=
  within? (fun e => e.update? key fun
    | none => some (.tables [[]])
    | some (.tables l) => some (.tables ([] :: l))
    | some _ => none) path

end Entries
end FieldRules.Toml
