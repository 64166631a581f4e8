/-!
# Places in a YAML text

A text is read from a cursor that knows its line and column. Line ends are one character each once a
text has been normalized.
-/
set_option autoImplicit false

namespace FieldRules.Yaml

def isBreak (c : Char) : Bool :=
  c == '\n' || c == '\u2028' || c == '\u2029'

def isSpace (c : Char) : Bool :=
  c == ' ' || c == '\t'

def isGap (c : Char) : Bool :=
  isSpace c || isBreak c

def isAllowed (c : Char) : Bool :=
  let n := c.toNat
  n == 0x09 || n == 0x0A || n == 0x0D || (0x20 ≤ n && n ≤ 0x7E) || n == 0x85 ||
    (0xA0 ≤ n && n ≤ 0xD7FF) || (0xE000 ≤ n && n ≤ 0xFFFD && n != 0xFEFF) || 0x10000 ≤ n

def normalize : List Char → List Char
  | [] => []
  | '\r' :: '\n' :: rest => '\n' :: normalize rest
  | c :: rest => (if c == '\r' || c == '\u0085' then '\n' else c) :: normalize rest

/-- The normalized text without its byte order mark; none if a character is not allowed. -/
def source? (text : String) : Option (List Char) :=
  let s := match text.toList with
    | '\uFEFF' :: rest => rest
    | s => s
  if s.all isAllowed then some (normalize s) else none

structure Cursor where
  rest : List Char
  index : Nat
  line : Nat
  column : Nat

namespace Cursor

def start (s : List Char) : Cursor :=
  ⟨s, 0, 0, 0⟩

def past (k : Cursor) (c : Char) (rest : List Char) : Cursor :=
  if isBreak c then ⟨rest, k.index + 1, k.line + 1, 0⟩ else ⟨rest, k.index + 1, k.line, k.column + 1⟩

def next (k : Cursor) : Cursor :=
  match k.rest with
  | [] => k
  | c :: rest => k.past c rest

def skip : Nat → Cursor → Cursor
  | 0, k => k
  | n + 1, k => skip n k.next

def span (p : Char → Bool) (k : Cursor) : List Char × Cursor :=
  let taken := k.rest.takeWhile p
  (taken, k.skip taken.length)

def dropWhile (p : Char → Bool) (k : Cursor) : Cursor :=
  (k.span p).2

def peek? (k : Cursor) : Option Char :=
  k.rest.head?

/-- Whether the character after `n` others is a gap or the end. -/
def gapAfter (k : Cursor) (n : Nat) : Bool :=
  match k.rest[n]? with
  | some c => isGap c
  | none => true

end Cursor

def atMark (s : List Char) : Bool :=
  match s with
  | '-' :: '-' :: '-' :: rest => rest.head?.all isGap
  | '.' :: '.' :: '.' :: rest => rest.head?.all isGap
  | _ => false

end FieldRules.Yaml
