import FieldRules.Double.Text
import FieldRules.Source.Token
import FieldRules.Text.Quoted

/-!
# Constructing trees

Trees for source text that is written rather than read. They stand nowhere, so all of them have the same
place. Literals know the values they are made from.
-/
set_option autoImplicit false

namespace FieldRules.Source

def punctOf : List Char → List Tree
  | [] => []
  | [c] => [.mark .start c false]
  | c :: rest => .mark .start c true :: punctOf rest

def punct (op : String) : List Tree :=
  punctOf op.toList

def word (name : String) : List Tree :=
  [.name .start false name]

def lifetime (name : String) : List Tree :=
  [.lifetime .start name]

def parens (content : List Tree) : List Tree :=
  [.group .start .start .paren content]

def brackets (content : List Tree) : List Tree :=
  [.group .start .start .bracket content]

def braces (content : List Tree) : List Tree :=
  [.group .start .start .brace content]

/-- A path from the root of all names. -/
def rooted (names : List String) : List Tree :=
  names.flatMap fun name => punct "::" ++ word name

def separate : List (List Tree) → List Tree
  | [] => []
  | [part] => part
  | part :: rest => part ++ punct "," ++ separate rest

def terminate (parts : List (List Tree)) : List Tree :=
  parts.flatMap fun part => part ++ punct ","

def textLiteral (s : String) : List Tree :=
  [.literal .start ⟨Text.Quoted.encode s, .text s⟩]

def flagLiteral (b : Bool) : List Tree :=
  word (if b then "true" else "false")

def minusIf (negative : Bool) : List Tree :=
  if negative then punct "-" else []

def intLiteral (i : Int) (type : String) : List Tree :=
  minusIf (i < 0) ++ [.literal .start ⟨toString i.natAbs ++ type, .int i.natAbs⟩]

def magnitude (x : Double) : Double :=
  if x.isNegative then x.neg else x

/-- A finite number in full positions, with the name of its type behind it. -/
def floatLiteral (x : Double) (type : String) : List Tree :=
  minusIf x.isNegative ++ [.literal .start ⟨(magnitude x).plain ++ type, .float (magnitude x)⟩]

end FieldRules.Source
