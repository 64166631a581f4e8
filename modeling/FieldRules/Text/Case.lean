import FieldRules.Text.Case.Table
import FieldRules.Text.Case.Context
import FieldRules.Text.Ranges

/-!
# Upper and lower case

Texts are mapped character by character. The one exception is the capital sigma, whose lower case
depends on whether it ends a word.
-/
set_option autoImplicit false

namespace FieldRules.Text

def CaseRun.contains (r : CaseRun) (n : Nat) : Bool :=
  r.first ≤ n && n ≤ r.last && (n - r.first) % r.step == 0

/-- The mapping of one code point by a table: its expansion, else its run, else itself. -/
def mapCode (runs : List CaseRun) (expansions : List (Nat × List Nat)) (n : Nat) : List Nat :=
  match expansions.lookup n with
  | some codes => codes
  | none =>
    match runs.find? (·.contains n) with
    | some run => [(n + run.offset).toNat]
    | none => [n]

def upperChar (c : Char) : List Char :=
  (mapCode CaseTable.upperRuns CaseTable.upperExpansions c.toNat).map Char.ofNat

def lowerChar (c : Char) : List Char :=
  (mapCode CaseTable.lowerRuns CaseTable.lowerExpansions c.toNat).map Char.ofNat

def upperChars (s : List Char) : List Char :=
  s.flatMap upperChar

def isCased (c : Char) : Bool :=
  inRanges CaseTable.cased c.toNat

def isIgnorable (c : Char) : Bool :=
  inRanges CaseTable.ignorable c.toNat

/-- Whether the next character that is not ignorable is a cased one. -/
def meetsCased (s : List Char) : Bool :=
  match s.dropWhile isIgnorable with
  | c :: _ => isCased c
  | [] => false

/-- The lower case of a text, given the characters before it in reverse. A capital sigma after a cased
letter and not before one ends a word and takes its final form. -/
def lowerFrom (before : List Char) : List Char → List Char
  | [] => []
  | c :: rest =>
    let mapped :=
      if c == 'Σ' then (if meetsCased before && !meetsCased rest then ['ς'] else ['σ'])
      else lowerChar c
    mapped ++ lowerFrom (c :: before) rest

def lowerChars (s : List Char) : List Char :=
  lowerFrom [] s

def upper (s : String) : String :=
  String.ofList (upperChars s.toList)

def lower (s : String) : String :=
  String.ofList (lowerChars s.toList)

end FieldRules.Text
