import FieldRules.Source.Construct

/-!
# Expressions that build data

The constructor expressions that generated code spells its data with.
-/
set_option autoImplicit false

namespace FieldRules.Source

inductive DataExpr where
  | text (s : String)
  | flag (b : Bool)
  | size (n : UInt64)
  | int (i : Int64)
  | float (x : Double)
  /-- A constant by its path. -/
  | constant (path : List String)
  | apply (path : List String) (argument : DataExpr)
  /-- A structure with its members; `closed` tells whether a comma follows the last one. -/
  | struct (path : List String) (members : List (String × DataExpr)) (closed : Bool)
  | vector (items : List DataExpr)

namespace DataExpr

def some (e : DataExpr) : DataExpr :=
  .apply ["core", "option", "Option", "Some"] e

def none : DataExpr :=
  .constant ["core", "option", "Option", "None"]

def option {α : Type} (f : α → DataExpr) : Option α → DataExpr
  | .some a => some (f a)
  | .none => none

def owned (s : String) : DataExpr :=
  .apply ["std", "string", "String", "from"] (.text s)

def owneds (texts : List String) : DataExpr :=
  .vector (texts.map owned)

/-- A number; those that no literal spells have names. -/
def floatTrees : Double → List Tree
  | .nan => rooted ["core", "primitive", "f64", "NAN"]
  | .infinite false => rooted ["core", "primitive", "f64", "INFINITY"]
  | .infinite true => rooted ["core", "primitive", "f64", "NEG_INFINITY"]
  | .finite x => floatLiteral (.finite x) "f64"

mutual

def trees : DataExpr → List Tree
  | text s => textLiteral s
  | flag b => flagLiteral b
  | size n => intLiteral n.toNat "usize"
  | int i => intLiteral i.toInt "i64"
  | float x => floatTrees x
  | constant path => rooted path
  | apply path argument => rooted path ++ parens argument.trees
  | struct path members closed => rooted path ++ braces (memberTrees closed members)
  | vector items => rooted ["std", "vec"] ++ punct "!" ++ brackets (itemTrees items)

def memberTrees (closed : Bool) : List (String × DataExpr) → List Tree
  | [] => []
  | [(name, e)] => word name ++ punct ":" ++ e.trees ++ (if closed then punct "," else [])
  | (name, e) :: rest => word name ++ punct ":" ++ e.trees ++ punct "," ++ memberTrees closed rest

def itemTrees : List DataExpr → List Tree
  | [] => []
  | [e] => e.trees
  | e :: rest => e.trees ++ punct "," ++ itemTrees rest

end

end DataExpr
end FieldRules.Source
