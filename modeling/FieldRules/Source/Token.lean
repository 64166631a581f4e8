import FieldRules.Double.Basic

/-!
# Token trees

The tokens of a source text. What stands between a pair of delimiters is one tree.
-/
set_option autoImplicit false

namespace FieldRules.Source

/-- A place in a source text: the line from one on, and the characters before it on its line. -/
structure Spot where
  line : Nat
  column : Nat
  deriving DecidableEq

namespace Spot

def start : Spot :=
  ⟨1, 0⟩

def after (s : Spot) (text : List Char) : Spot :=
  text.foldl (fun s c => if c == '\n' then ⟨s.line + 1, 0⟩ else ⟨s.line, s.column + 1⟩) s

end Spot

inductive Delimiter where
  | paren
  | bracket
  | brace
  /-- Delimiters that are not written. -/
  | invisible
  deriving DecidableEq

/-- What a literal token stands for. Literals that are no texts and no numbers have no value here. -/
inductive LiteralValue where
  | text (s : String)
  | int (n : Nat)
  | float (x : Double)
  | other
  deriving DecidableEq

structure Literal where
  spelling : String
  value : LiteralValue
  deriving DecidableEq

inductive Tree where
  /-- A name or keyword; a raw one is never a keyword. -/
  | name (spot : Spot) (raw : Bool) (text : String)
  /-- One punctuation character; a joint one has another right behind it. -/
  | mark (spot : Spot) (c : Char) (joint : Bool)
  | lifetime (spot : Spot) (text : String)
  | literal (spot : Spot) (l : Literal)
  | group (opening closing : Spot) (delimiter : Delimiter) (content : List Tree)

namespace Tree

def spot : Tree → Spot
  | name spot _ _ => spot
  | mark spot _ _ => spot
  | lifetime spot _ => spot
  | literal spot _ => spot
  | group opening _ _ _ => opening

def isMark (c : Char) : Tree → Bool
  | mark _ d _ => c == d
  | _ => false

end Tree

def Delimiter.opening : Delimiter → List String
  | paren => ["("]
  | bracket => ["["]
  | brace => ["\x7b"]
  | invisible => []

def Delimiter.closing : Delimiter → List String
  | paren => [")"]
  | bracket => ["]"]
  | brace => ["\x7d"]
  | invisible => []

mutual

/-- The tokens of a tree as they are written, delimiters included. -/
def Tree.words : Tree → List String
  | .name _ raw text => [if raw then "r#" ++ text else text]
  | .mark _ c _ => [String.singleton c]
  | .lifetime _ text => ["'" ++ text]
  | .literal _ l => [l.spelling]
  | .group _ _ d content => d.opening ++ words content ++ d.closing

def words : List Tree → List String
  | [] => []
  | t :: rest => t.words ++ words rest

end

mutual

def Tree.size : Tree → Nat
  | .group _ _ _ content => sizeOfTrees content + 2
  | _ => 1

def sizeOfTrees : List Tree → Nat
  | [] => 0
  | t :: rest => t.size + sizeOfTrees rest

end

def spell (trees : List Tree) : String :=
  " ".intercalate (words trees)

end FieldRules.Source
