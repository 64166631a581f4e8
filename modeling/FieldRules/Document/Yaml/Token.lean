import FieldRules.Document.Yaml.Quoted

/-!
# Tokens of YAML

A text is split into tokens. Indentation opens and closes lists and maps, and a word turns out to be a key
only at the colon after it, so the token of a key is put in front of it afterwards.
-/
set_option autoImplicit false

namespace FieldRules.Yaml

inductive Token where
  | version
  | tagPrefix (handle replacement : String)
  | documentStart
  | documentEnd
  | blockListStart
  | blockMapStart
  | blockEnd
  | flowListStart
  | flowListEnd
  | flowMapStart
  | flowMapEnd
  | listItem
  | comma
  | key
  | value
  | alias (name : String)
  | anchor (name : String)
  | tag (handle suffix : String)
  | scalar (quoted : Bool) (text : String)
  deriving DecidableEq

structure KeyPlace where
  /-- The number of tokens before it. -/
  tokens : Nat
  index : Nat
  line : Nat
  column : Nat
  /-- Nothing but a key may stand there. -/
  required : Bool

/-- A key and the colon after it are on one line and not further apart than this. -/
def keyReach : Nat := 1024

structure Tokenizer where
  cursor : Cursor
  /-- The columns of the open block lists and maps, the innermost first. -/
  indents : List Nat
  /-- For the text outside brackets and for every open bracket, the last place where a key may have
  begun; the innermost first. -/
  keys : List (Option KeyPlace)
  /-- Whether a key may begin here. -/
  keyAllowed : Bool
  /-- The tokens so far, the last one first. -/
  tokens : List Token
  count : Nat

namespace Tokenizer

def start (s : List Char) : Tokenizer :=
  ⟨.start s, [], [none], true, [], 0⟩

def inFlow (t : Tokenizer) : Bool :=
  1 < t.keys.length

def push (t : Tokenizer) (token : Token) : Tokenizer :=
  { t with tokens := token :: t.tokens, count := t.count + 1 }

def insertAt (t : Tokenizer) (n : Nat) (token : Token) : Tokenizer :=
  let after := t.count - n
  { t with tokens := t.tokens.take after ++ token :: t.tokens.drop after, count := t.count + 1 }

def move (t : Tokenizer) (k : Cursor) : Tokenizer :=
  { t with cursor := k }

def allowKey (t : Tokenizer) (b : Bool) : Tokenizer :=
  { t with keyAllowed := b }

/-- Closes the block lists and maps to the right of a column. -/
def unroll (t : Tokenizer) (column : Option Nat) : Tokenizer :=
  if t.inFlow then t
  else
    let closed := t.indents.takeWhile fun n => column.all fun c => c < n
    { t with
      indents := t.indents.drop closed.length
      tokens := closed.map (fun _ => .blockEnd) ++ t.tokens
      count := t.count + closed.length }

/-- Opens a block list or map at a column behind the first `n` tokens, unless one is open there. -/
def roll (t : Tokenizer) (column n : Nat) (token : Token) : Tokenizer :=
  if t.inFlow || t.indents.head?.any fun i => column ≤ i then t
  else { t.insertAt n token with indents := column :: t.indents }

def key? (t : Tokenizer) : Option KeyPlace :=
  t.keys.head?.join

def setKey (t : Tokenizer) (p : Option KeyPlace) : Tokenizer :=
  { t with keys := p :: t.keys.tail }

/-- Gives up the last place of a key; one that was required is an error. -/
def dropKey? (t : Tokenizer) : Option Tokenizer :=
  if t.key?.any KeyPlace.required then none else some (t.setKey none)

def noteKey? (t : Tokenizer) : Option Tokenizer :=
  if t.keyAllowed then
    t.dropKey?.map fun t => t.setKey (some
      { tokens := t.count, index := t.cursor.index, line := t.cursor.line, column := t.cursor.column
        required := !t.inFlow && t.indents.head? == some t.cursor.column })
  else some t

def isStale (t : Tokenizer) (p : KeyPlace) : Bool :=
  p.line < t.cursor.line || p.index + keyReach < t.cursor.index

def dropStale? (t : Tokenizer) : Option Tokenizer :=
  if t.keys.any fun p => p.any fun p => p.required && t.isStale p then none
  else some { t with keys := t.keys.map fun p => p.filter fun p => !t.isStale p }

/-- Skips gaps and comments up to the next token. A tab may not stand where a key may begin. -/
def skipGaps (t : Tokenizer) : List Char → Tokenizer
  | [] => t
  | c :: rest =>
    if c == ' ' || (c == '\t' && (t.inFlow || !t.keyAllowed)) then (t.move (t.cursor.past c rest)).skipGaps rest
    else if isBreak c then
      ({ t with cursor := t.cursor.past c rest, keyAllowed := t.keyAllowed || !t.inFlow }).skipGaps rest
    else t

def skipComment (t : Tokenizer) : Tokenizer :=
  if t.cursor.peek? == some '#' then t.move (t.cursor.dropWhile fun c => !isBreak c) else t

def skipToToken (fuel : Nat) (t : Tokenizer) : Tokenizer :=
  match fuel with
  | 0 => t
  | fuel + 1 =>
    let t := t.skipGaps t.cursor.rest
    if t.cursor.peek? == some '#' then t.skipComment.skipToToken fuel else t

def isNameChar (c : Char) : Bool :=
  c.isAlphanum || c == '_' || c == '-'

def anchorName? (k : Cursor) : Option (String × Cursor) :=
  let (name, after) := k.span isNameChar
  let closed := after.peek?.all fun c => isGap c || "?:,]\x7d%@\x60".toList.contains c
  if name.isEmpty || !closed then none else some (String.ofList name, after)

def isTagChar (inBrackets : Bool) (c : Char) : Bool :=
  c.isAlphanum || "_-;/?:@&=+$.!~*'()%".toList.contains c || (inBrackets && ",[]".toList.contains c)

def tagBytes? : List Char → Option (List UInt8)
  | [] => some []
  | '%' :: a :: b :: rest => do
    let a ← hexDigit? a
    let b ← hexDigit? b
    (tagBytes? rest).map (UInt8.ofNat (16 * a + b) :: ·)
  | c :: rest => if c == '%' then none else (tagBytes? rest).map (c.toUInt8 :: ·)

def tagText? (s : List Char) : Option String := do
  let bytes ← tagBytes? s
  String.fromUTF8? ⟨bytes.toArray⟩

/-- The handle at the start of a tag: `!`, `!!` or `!name!`. -/
def tagHandle (k : Cursor) : List Char × Cursor :=
  let (name, after) := k.next.span isNameChar
  if after.peek? == some '!' then ('!' :: name ++ ['!'], after.next) else ('!' :: name, after)

/-- Behind a tag comes a gap, or a comma inside brackets. -/
def tagEnds (inFlow : Bool) (k : Cursor) : Bool :=
  k.peek?.all fun c => isGap c || (inFlow && c == ',')

/-- The handle and the rest of a tag; the cursor stands at its `!`. -/
def tag? (inFlow : Bool) (k : Cursor) : Option (Token × Cursor) := do
  let (token, after) ←
    if k.rest[1]? == some '<' then
      let (s, after) := (k.skip 2).span (isTagChar true)
      if s.isEmpty || after.peek? != some '>' then none
      else (tagText? s).map fun s => (Token.tag "" s, after.next)
    else
      let (handle, after) := tagHandle k
      if 1 < handle.length && handle.getLast? == some '!' then
        let (s, after) := after.span (isTagChar false)
        if s.isEmpty then none else (tagText? s).map fun s => (Token.tag (String.ofList handle) s, after)
      else
        let (s, after) := after.span (isTagChar false)
        let s := handle.drop 1 ++ s
        if s.isEmpty then some (Token.tag "" "!", after)
        else (tagText? s).map fun s => (Token.tag "!" s, after)
  if tagEnds inFlow after then some (token, after) else none

def lineEnds (k : Cursor) : Bool :=
  let k := k.dropWhile isSpace
  k.peek?.all fun c => isBreak c || c == '#'

def versions : List String :=
  ["1.1", "1.2"]

def directive? (k : Cursor) : Option (Token × Cursor) := do
  let (name, k) := k.next.span isNameChar
  let k := k.dropWhile isSpace
  let (token, k) ←
    if name == "YAML".toList then
      let (v, k) := k.span fun c => c.isDigit || c == '.'
      if versions.contains (String.ofList v) then some (Token.version, k) else none
    else if name == "TAG".toList then
      if k.peek? != some '!' then none
      else
        let (handle, k) := tagHandle k
        if handle.getLast? != some '!' || !(k.peek?.any isSpace) then none
        else
          let (s, k) := (k.dropWhile isSpace).span (isTagChar true)
          if s.isEmpty || !k.gapAfter 0 then none
          else (tagText? s).map fun s => (Token.tagPrefix (String.ofList handle) s, k)
    else none
  if lineEnds k then
    some (token, ((k.dropWhile isSpace).dropWhile fun c => !isBreak c).next)
  else none

def boundary? (t : Tokenizer) (token : Token) (after : Cursor) : Option Tokenizer := do
  let t ← (t.unroll none).dropKey?
  some (((t.allowKey false).push token).move after)

def flowStart? (t : Tokenizer) (token : Token) : Option Tokenizer := do
  let t ← t.noteKey?
  some ((({ t with keys := none :: t.keys }.allowKey true).push token).move t.cursor.next)

/-- A closing bracket. One that closes nothing leaves the outermost place as it is. -/
def flowEnd? (t : Tokenizer) (token : Token) : Option Tokenizer := do
  let t ← t.dropKey?
  let keys := if t.inFlow then t.keys.tail else t.keys
  some ((({ t with keys }.allowKey false).push token).move t.cursor.next)

def comma? (t : Tokenizer) : Option Tokenizer := do
  let t ← t.dropKey?
  some (((t.allowKey true).push .comma).move t.cursor.next)

def entry? (t : Tokenizer) (block token : Token) (thenKey : Bool) : Option Tokenizer :=
  if !t.inFlow && !t.keyAllowed then none
  else do
    let t ← (t.roll t.cursor.column t.count block).dropKey?
    some (((t.allowKey thenKey).push token).move t.cursor.next)

/-- A colon: the end of the key that was noted, or of an empty or marked one. -/
def colon? (t : Tokenizer) : Option Tokenizer :=
  match t.key? with
  | some p =>
    let t := (t.insertAt p.tokens .key).roll p.column p.tokens .blockMapStart
    some ((((t.setKey none).allowKey false).push .value).move t.cursor.next)
  | none =>
    if !t.inFlow && !t.keyAllowed then none
    else
      let t := t.roll t.cursor.column t.count .blockMapStart
      some (((t.allowKey (!t.inFlow)).push .value).move t.cursor.next)

def keyStart? (t : Tokenizer) (read : Cursor → Option (Token × Cursor)) : Option Tokenizer := do
  let t ← t.noteKey?
  let (token, after) ← read t.cursor
  some (((t.allowKey false).push token).move after)

def block? (t : Tokenizer) (literal : Bool) : Option Tokenizer := do
  let t ← t.dropKey?
  let (s, after) ← blockText? literal t.indents.head? t.cursor.next
  some (((t.allowKey true).push (.scalar true s)).move after)

def plain? (t : Tokenizer) : Option Tokenizer := do
  let t ← t.noteKey?
  let indent := (t.indents.head?.map (· + 1)).getD 0
  let (s, after, ended) ← plainText? t.inFlow indent t.cursor .empty t.cursor.rest
  some (((t.allowKey ended).push (.scalar false s)).move after)

def indicators : List Char :=
  "-?:,[]\x7b\x7d#&*!|>'\"%@\x60".toList

def startsPlain (t : Tokenizer) (c : Char) : Bool :=
  !indicators.contains c && !isGap c ||
    (c == '-' && !(t.cursor.rest[1]?.any isSpace)) ||
    ((c == '?' || c == ':') && !t.inFlow && !t.cursor.gapAfter 1)

def token? (t : Tokenizer) (c : Char) : Option Tokenizer :=
  let k := t.cursor
  if k.column == 0 && c == '%' then do
    let (token, after) ← directive? k
    t.boundary? token after
  else if k.column == 0 && atMark k.rest then
    t.boundary? (if c == '-' then .documentStart else .documentEnd) (k.skip 3)
  else if c == '[' then t.flowStart? .flowListStart
  else if c == '\x7b' then t.flowStart? .flowMapStart
  else if c == ']' then t.flowEnd? .flowListEnd
  else if c == '\x7d' then t.flowEnd? .flowMapEnd
  else if c == ',' then t.comma?
  else if c == '-' && k.gapAfter 1 then t.entry? .blockListStart .listItem true
  else if c == '?' && (t.inFlow || k.gapAfter 1) then t.entry? .blockMapStart .key (!t.inFlow)
  else if c == ':' && (t.inFlow || k.gapAfter 1) then t.colon?
  else if c == '*' then t.keyStart? fun k => (anchorName? k.next).map fun (n, k) => (.alias n, k)
  else if c == '&' then t.keyStart? fun k => (anchorName? k.next).map fun (n, k) => (.anchor n, k)
  else if c == '!' then t.keyStart? (tag? t.inFlow)
  else if c == '|' && !t.inFlow then t.block? true
  else if c == '>' && !t.inFlow then t.block? false
  else if c == '\'' then
    t.keyStart? fun k => (singleQuoted? k.next .empty k.next.rest).map fun (s, k) => (.scalar true s, k)
  else if c == '"' then
    t.keyStart? fun k => (doubleQuoted? k.next .empty k.next.rest).map fun (s, k) => (.scalar true s, k)
  else if t.startsPlain c then t.plain?
  else none

def run? (t : Tokenizer) : Option (List Token) :=
  match (t.skipToToken t.cursor.rest.length).dropStale? with
  | none => none
  | some ready =>
    match ready.cursor.rest with
    | [] => ((ready.unroll none).dropKey?).map fun t => t.tokens.reverse
    | c :: _ =>
      match (ready.unroll (some ready.cursor.column)).token? c with
      | none => none
      | some next => if _h : next.cursor.rest.length < t.cursor.rest.length then next.run? else none
termination_by t.cursor.rest.length

end Tokenizer

def tokens? (text : String) : Option (List Token) := do
  let s ← source? text
  (Tokenizer.start s).run?

end FieldRules.Yaml
