import FieldRules.Document.Basic
import FieldRules.Double.Text

/-!
# Writing JSON

The compact form: no gaps, entries in their order, numbers in their shortest form, and escapes only
where JSON asks for them.
-/
set_option autoImplicit false

namespace FieldRules.Json

def hexChar (n : Nat) : Char :=
  Nat.digitChar (n % 16)

def escape (c : Char) : List Char :=
  if c == '"' then ['\\', '"']
  else if c == '\\' then ['\\', '\\']
  else if c == '\x08' then ['\\', 'b']
  else if c == '\x0c' then ['\\', 'f']
  else if c == '\n' then ['\\', 'n']
  else if c == '\r' then ['\\', 'r']
  else if c == '\t' then ['\\', 't']
  else if c.toNat < 0x20 then ['\\', 'u', '0', '0', hexChar (c.toNat / 16), hexChar c.toNat]
  else [c]

def quoted (s : String) : String :=
  String.ofList ('"' :: s.toList.flatMap escape ++ ['"'])

mutual

/-- The compact text of a node. A number without a JSON form is written `null`. -/
def print : Document → String
  | .null => "null"
  | .bool true => "true"
  | .bool false => "false"
  | .int i => toString i
  | .float x => x.compact?.getD "null"
  | .text s => quoted s
  | .list items => "[" ++ printItems items ++ "]"
  | .map entries => "\x7b" ++ printEntries entries ++ "\x7d"
  | .word spelling _ => quoted spelling
  | .tagged name content => "\x7b" ++ quoted name ++ ":" ++ print content ++ "\x7d"
  | .irregular => "null"

def printItems : List Document → String
  | [] => ""
  | [d] => print d
  | d :: rest => print d ++ "," ++ printItems rest

def printEntries : List (String × Document) → String
  | [] => ""
  | [(key, d)] => quoted key ++ ":" ++ print d
  | (key, d) :: rest => quoted key ++ ":" ++ print d ++ "," ++ printEntries rest

end

end FieldRules.Json
