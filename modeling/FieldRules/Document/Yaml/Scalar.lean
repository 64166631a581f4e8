import FieldRules.Document.Basic
import FieldRules.Double.Reader
import FieldRules.IntKind

/-!
# Scalars of YAML

What unquoted words mean: null, the two Booleans, integers in four bases and other numbers, by the core
schema. All other words are texts.
-/
set_option autoImplicit false

namespace FieldRules.Yaml

def nullWords : List String :=
  ["~", "null", "Null", "NULL"]

def trueWords : List String :=
  ["true", "True", "TRUE"]

def falseWords : List String :=
  ["false", "False", "FALSE"]

def bool? (word : String) : Option Bool :=
  if trueWords.contains word then some true
  else if falseWords.contains word then some false
  else none

def digit? (base : Nat) (c : Char) : Option Nat :=
  let value :=
    if c.isDigit then some (c.toNat - '0'.toNat)
    else if 'a' ≤ c && c ≤ 'z' then some (c.toNat - 'a'.toNat + 10)
    else if 'A' ≤ c && c ≤ 'Z' then some (c.toNat - 'A'.toNat + 10)
    else none
  value.filter fun n => n < base

def natural? (base : Nat) (digits : List Char) : Option Nat :=
  if digits.isEmpty then none
  else (digits.mapM (digit? base)).map fun ds => ds.foldl (fun n d => base * n + d) 0

/-- The base that a leading `0x`, `0o` or `0b` names, and the digits after it. -/
def based? : List Char → Option (Nat × List Char)
  | '0' :: 'x' :: rest => some (16, rest)
  | '0' :: 'o' :: rest => some (8, rest)
  | '0' :: 'b' :: rest => some (2, rest)
  | _ => none

def magnitude? (digits : List Char) : Option Nat :=
  match based? digits with
  | some (base, digits) => natural? base digits
  | none => natural? 10 digits

/-- Zeros before other digits make a text. -/
def paddedDigits (word : List Char) : Bool :=
  match (Numeral.splitSign word).2 with
  | '0' :: c :: rest => (c :: rest).all Char.isDigit
  | _ => false

def int? (word : List Char) : Option Int :=
  if paddedDigits word then none
  else
    let (negative, digits) := Numeral.splitSign word
    (magnitude? digits).map fun n => if negative then -(n : Int) else n

/-- The node of an integer. Integers of more than 64 bits have no value if 128 bits hold them, and are
not integers otherwise. -/
def intNode? (i : Int) : Option Document :=
  if (IntKind.signed 64).holds i || (IntKind.unsigned 64).holds i then some (.int i)
  else if (IntKind.signed 128).holds i || (IntKind.unsigned 128).holds i then some .irregular
  else none

def infinities : List String :=
  [".inf", ".Inf", ".INF"]

def notANumbers : List String :=
  [".nan", ".NaN", ".NAN"]

def float? (word : String) : Option Double :=
  let (negative, rest) := Numeral.splitSign word.toList
  if infinities.contains (String.ofList rest) then some (.infinite negative)
  else if notANumbers.contains word then some .nan
  else (Double.read? word).filter Double.isFinite

def numberNode? (word : String) : Option Document :=
  match (int? word.toList).bind intNode? with
  | some d => some d
  | none => if paddedDigits word.toList then none else (float? word).map .float

def plain (word : String) : Document :=
  if word.isEmpty || nullWords.contains word then .word word .null
  else
    match bool? word with
    | some b => .word word (.bool b)
    | none =>
      match numberNode? word with
      | some d => .word word d
      | none => .text word

def coreName (name : String) : String :=
  "tag:yaml.org,2002:" ++ name

/-- The meaning that a common tag forces on a scalar; one that does not have it has no value. -/
def forced (tag word : String) : Document :=
  if tag == coreName "null" then if nullWords.contains word then .null else .irregular
  else if tag == coreName "bool" then ((bool? word).map .bool).getD .irregular
  else if tag == coreName "int" then ((int? word.toList).bind intNode?).getD .irregular
  else if tag == coreName "float" then ((float? word).map .float).getD .irregular
  else .text word

/-- The node of a scalar under an optional tag. A tag that starts with `!` is a name of its own. -/
def scalar (tag : Option String) (quoted : Bool) (word : String) : Document :=
  let untagged := if quoted then .text word else plain word
  match tag.map String.toList with
  | none => untagged
  | some [] => untagged
  | some ('!' :: name) => .tagged (String.ofList name) untagged
  | some name => .word word (forced (String.ofList name) word)

def collection (tag : Option String) (d : Document) : Document :=
  match tag.map String.toList with
  | some ('!' :: name) => .tagged (String.ofList name) d
  | _ => d

end FieldRules.Yaml
