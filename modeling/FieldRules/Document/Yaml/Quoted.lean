import FieldRules.Document.Yaml.Folding

/-!
# Quoted, plain and block scalars

The readers of the five ways to write a scalar. Each takes the cursor behind the opening indicator and
gives the text and the cursor behind the scalar.
-/
set_option autoImplicit false

namespace FieldRules.Yaml

def hexDigit? (c : Char) : Option Nat :=
  if c.isDigit then some (c.toNat - '0'.toNat)
  else if 'a' ≤ c && c ≤ 'f' then some (c.toNat - 'a'.toNat + 10)
  else if 'A' ≤ c && c ≤ 'F' then some (c.toNat - 'A'.toNat + 10)
  else none

def hexChar? (digits : List Char) : Option Char := do
  let ds ← digits.mapM hexDigit?
  let n := ds.foldl (fun n d => 16 * n + d) 0
  if n.isValidChar then some (Char.ofNat n) else none

def escape? : Char → Option Char
  | '0' => some '\x00'
  | 'a' => some '\x07'
  | 'b' => some '\x08'
  | 't' => some '\t'
  | '\t' => some '\t'
  | 'n' => some '\n'
  | 'v' => some '\x0b'
  | 'f' => some '\x0c'
  | 'r' => some '\r'
  | 'e' => some '\x1b'
  | ' ' => some ' '
  | '"' => some '"'
  | '/' => some '/'
  | '\\' => some '\\'
  | 'N' => some '\u0085'
  | '_' => some '\u00a0'
  | 'L' => some '\u2028'
  | 'P' => some '\u2029'
  | _ => none

def escapeDigits : Char → Nat
  | 'x' => 2
  | 'u' => 4
  | 'U' => 8
  | _ => 0

/-- The text up to the closing single quote; two quotes stand for one. -/
def singleQuoted? (k : Cursor) (f : Folding) : List Char → Option (String × Cursor)
  | [] => none
  | '\'' :: '\'' :: rest => singleQuoted? (k.next.next) (f.push '\'') rest
  | '\'' :: rest =>
    let done : Folding := ⟨f.gap.folded ++ f.text, .none⟩
    some (done.result, k.past '\'' rest)
  | c :: rest =>
    if k.column == 0 && atMark (c :: rest) then none
    else singleQuoted? (k.past c rest) (if isGap c then f.skipGap c else f.push c) rest

/-- The text up to the closing double quote. A backslash before a line end joins the lines. -/
def doubleQuoted? (k : Cursor) (f : Folding) (s : List Char) : Option (String × Cursor) :=
  match s with
  | [] => none
  | '"' :: rest =>
    let done : Folding := ⟨f.gap.folded ++ f.text, .none⟩
    some (done.result, k.past '"' rest)
  | '\\' :: c :: rest =>
    if isBreak c then
      doubleQuoted? (k.skip 2) ⟨f.gap.folded ++ f.text, .lines none []⟩ rest
    else
      match escape? c with
      | some e => doubleQuoted? (k.skip 2) (f.push e) rest
      | none =>
        let n := escapeDigits c
        if n == 0 || rest.length < n then none
        else
          match hexChar? (rest.take n) with
          | some e => doubleQuoted? (k.skip (n + 2)) (f.push e) (rest.drop n)
          | none => none
  | c :: rest =>
    if c == '\\' || k.column == 0 && atMark (c :: rest) then none
    else doubleQuoted? (k.past c rest) (if isGap c then f.skipGap c else f.push c) rest
termination_by s.length
decreasing_by all_goals simp only [List.length_cons, List.length_drop]; omega

def isFlowMark (c : Char) : Bool :=
  c == ',' || c == '[' || c == ']' || c == '\x7b' || c == '\x7d'

/-- What the next character does to a plain scalar. -/
inductive PlainStep where
  | take
  | stop
  | fail

/-- A plain scalar ends before a comment, before a colon with a gap, at less indentation and, inside
brackets, at a bracket or comma. A colon next to one of those is an error. -/
def plainStep (flow : Bool) (indent : Nat) (k : Cursor) (f : Folding) (c : Char) (rest : List Char) :
    PlainStep :=
  if f.gap.isLines && !flow && k.column < indent then .stop
  else if k.column == 0 && atMark (c :: rest) then .stop
  else if c == '#' && !f.gap.isNone then .stop
  else if flow && c == ':' && rest.head?.any (fun d => isFlowMark d || d == '?') then .fail
  else if c == ':' && rest.head?.all isGap then .stop
  else if flow && isFlowMark c then .stop
  else .take

/-- The text of a plain scalar. The cursor stands behind the gap after it; the last part tells whether a
line has ended in that gap. -/
def plainText? (flow : Bool) (indent : Nat) (k : Cursor) (f : Folding) :
    List Char → Option (String × Cursor × Bool)
  | [] => some (f.result, k, f.gap.isLines)
  | c :: rest =>
    if isGap c then
      if c == '\t' && f.gap.isLines && k.column < indent then none
      else plainText? flow indent (k.past c rest) (f.skipGap c) rest
    else
      match plainStep flow indent k f c rest with
      | .take => plainText? flow indent (k.past c rest) (f.push c) rest
      | .stop => some (f.result, k, f.gap.isLines)
      | .fail => none

/-- What becomes of the line ends after a block scalar. -/
inductive Chomping where
  | strip
  | clip
  | keep

/-- The header of a block scalar: chomping and indentation, in either order. -/
structure BlockHeader where
  chomping : Chomping
  indent : Option Nat

def chomping? : Char → Option Chomping
  | '+' => some .keep
  | '-' => some .strip
  | _ => none

def indentDigit? (c : Char) : Option Nat :=
  if c.isDigit then some (c.toNat - '0'.toNat) else none

def blockHeader? : List Char → Option (BlockHeader × Nat)
  | [] => some (⟨.clip, none⟩, 0)
  | c :: rest =>
    match chomping? c, indentDigit? c with
    | some chomping, _ =>
      match rest.head?.bind indentDigit? with
      | some 0 => none
      | some n => some (⟨chomping, some n⟩, 2)
      | none => some (⟨chomping, none⟩, 1)
    | none, some 0 => none
    | none, some n =>
      match rest.head?.bind chomping? with
      | some chomping => some (⟨chomping, some n⟩, 2)
      | none => some (⟨.clip, some n⟩, 1)
    | none, none => some (⟨.clip, none⟩, 0)

/-- The line ends before the next line of a block scalar, the last one first, the cursor at that line and
the indentation. An indentation that is not known yet is the largest of the empty lines and that line. -/
def blockBreaks? (least : Nat) (indent : Option Nat) (largest : Nat) (k : Cursor) (breaks : List Char) :
    List Char → Option (List Char × Cursor × Nat)
  | [] =>
    some (breaks, k, indent.getD (max (max largest k.column) least))
  | c :: rest =>
    let within := indent.all fun n => k.column < n
    if c == ' ' && within then blockBreaks? least indent largest (k.past c rest) breaks rest
    else if c == '\t' && within then none
    else if isBreak c then
      blockBreaks? least indent (max largest k.column) (k.past c rest) (c :: breaks) rest
    else some (breaks, k, indent.getD (max (max largest k.column) least))

structure BlockText where
  text : List Char
  /-- The end of the line before. -/
  lineEnd : List Char
  /-- The line ends after that, the last one first. -/
  breaks : List Char
  /-- Whether the line before started with a blank. -/
  indented : Bool

namespace BlockText

/-- The text with the line ends before a line that starts with `c`. In folded text a single line end
between two lines that are not indented further becomes a space. -/
def join (b : BlockText) (literal : Bool) (c : Char) : List Char :=
  if !literal && b.lineEnd == ['\n'] && !b.indented && !isSpace c then
    if b.breaks.isEmpty then ' ' :: b.text else b.breaks ++ b.text
  else b.breaks ++ b.lineEnd ++ b.text

def finish (b : BlockText) (chomping : Chomping) : String :=
  let s := match chomping with
    | .strip => b.text
    | .clip => b.lineEnd ++ b.text
    | .keep => b.breaks ++ b.lineEnd ++ b.text
  String.ofList s.reverse

end BlockText

def blockLines? (literal : Bool) (indent : Nat) (b : BlockText) (k : Cursor) : Option (BlockText × Cursor) :=
  match k.rest with
  | [] => some (b, k)
  | c :: _ =>
    if k.column != indent then some (b, k)
    else
      let (line, after) := k.span fun c => !isBreak c
      let (lineEnd, below) := match after.rest with
        | [] => ([], after)
        | e :: rest => ([e], after.past e rest)
      match blockBreaks? indent (some indent) 0 below [] below.rest with
      | none => none
      | some (breaks, next, _) =>
        let b : BlockText := ⟨line.reverse ++ b.join literal c, lineEnd, breaks, isSpace c⟩
        if _h : next.rest.length < k.rest.length then blockLines? literal indent b next else none
termination_by k.rest.length

/-- The text of a block scalar from its header on; `parent` is the indentation around it. -/
def blockText? (literal : Bool) (parent : Option Nat) (k : Cursor) : Option (String × Cursor) := do
  let (header, n) ← blockHeader? k.rest
  let k := (k.skip n).dropWhile isSpace
  let k := if k.peek? == some '#' then k.dropWhile fun c => !isBreak c else k
  if !(k.peek?.all isBreak) then none
  else
    let k := k.next
    let indent := header.indent.map fun n => parent.getD 0 + n
    let least := max 1 ((parent.map (· + 1)).getD 0)
    let (breaks, k, indent) ← blockBreaks? least indent 0 k [] k.rest
    let (b, k) ← blockLines? literal indent ⟨[], [], breaks, false⟩ k
    some (b.finish header.chomping, k)

end FieldRules.Yaml
