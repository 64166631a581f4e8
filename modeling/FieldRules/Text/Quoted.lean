import FieldRules.Text.Quoted.Table
import FieldRules.Text.Ranges

/-!
# Quoted texts

A text in double quotes, in which quotes, backslashes, controls and all characters that show nothing of
their own are escaped.
-/
set_option autoImplicit false

namespace FieldRules.Text.Quoted

/-- Characters that are written by their code point. -/
def isHidden (c : Char) : Bool :=
  inRanges QuotedTable.extending c.toNat || inRanges QuotedTable.hidden c.toNat

def byCode (c : Char) : List Char :=
  '\\' :: 'u' :: '\x7b' :: (Nat.toDigits 16 c.toNat) ++ ['\x7d']

/-- A null is written as a digit, unless another octal digit follows. -/
def nullEscape (next : Option Char) : List Char :=
  if next.any fun c => '0' ≤ c && c ≤ '7' then ['\\', 'x', '0', '0'] else ['\\', '0']

def encodeChar (c : Char) (next : Option Char) : List Char :=
  if c == '\x00' then nullEscape next
  else if c == '"' then ['\\', '"']
  else if c == '\\' then ['\\', '\\']
  else if c == '\n' then ['\\', 'n']
  else if c == '\r' then ['\\', 'r']
  else if c == '\t' then ['\\', 't']
  else if isHidden c then byCode c
  else [c]

def encodeChars : List Char → List Char
  | [] => []
  | c :: rest => encodeChar c rest.head? ++ encodeChars rest

def encode (s : String) : String :=
  String.ofList ('"' :: encodeChars s.toList ++ ['"'])

end FieldRules.Text.Quoted
