import FieldRules.Source.Literal
import FieldRules.Text.Quoted
import FieldRules.Text.Blank

/-!
# Reading tokens

A source text is split into leaves and delimiters, which are then put together to trees.
-/
set_option autoImplicit false

namespace FieldRules.Source

open Text (startsName continuesName isBlank)

inductive Leaf where
  | name (raw : Bool) (text : String)
  | mark (c : Char) (joint : Bool)
  | lifetime (text : String)
  | literal (l : Literal)
  /-- A comment that documents what it stands before, or what it stands in. -/
  | documentation (inner : Bool) (text : String)

inductive Piece where
  | leaf (l : Leaf)
  | opening (d : Delimiter)
  | closing (d : Delimiter)

/-- White space between tokens; the two marks of writing direction count as such. -/
def isGap (c : Char) : Bool :=
  isBlank c || c == '\u200e' || c == '\u200f'

def isLineEnd (c : Char) : Bool :=
  c == '\n'

/-- The text behind a comment that may hold others of its kind; `depth` counts the open ones. -/
def blockComment? (depth : Nat) : List Char → Option (List Char)
  | '/' :: '*' :: rest => blockComment? (depth + 1) rest
  | '*' :: '/' :: rest => if depth ≤ 1 then some rest else blockComment? (depth - 1) rest
  | _ :: rest => blockComment? depth rest
  | [] => none

/-- The text behind a comment at its start, if it is not one that documents. -/
def comment? : List Char → Option (List Char)
  | '/' :: '/' :: rest =>
    let documents := match rest with
      | '/' :: '/' :: _ => false
      | '/' :: _ => true
      | '!' :: _ => true
      | _ => false
    if documents then none else some (rest.dropWhile fun c => !isLineEnd c)
  | '/' :: '*' :: rest =>
    let documents := match rest with
      | '*' :: '/' :: _ => false
      | '*' :: '*' :: _ => false
      | '*' :: _ => true
      | '!' :: _ => true
      | _ => false
    if documents then none else blockComment? 1 rest
  | _ => none

def documentation? (s : List Char) : Option (Taken Leaf) :=
  match s with
  | '/' :: '/' :: c :: rest =>
    if (c == '/' && rest.head? != some '/') || c == '!' then
      let line := rest.takeWhile fun c => !isLineEnd c
      some (.documentation (c == '!') (String.ofList line), rest.drop line.length)
    else none
  | '/' :: '*' :: c :: rest =>
    if (c == '*' && rest.head? != some '*' && rest.head? != some '/') || c == '!' then
      (blockComment? 1 (c :: rest)).map fun after =>
        (.documentation (c == '!') (String.ofList (rest.take (rest.length - after.length - 2))), after)
    else none
  | _ => none

def marks : List Char :=
  "~!@#$%^&*-=+|;:,<.>/?'".toList

def startsComment : List Char → Bool
  | '/' :: '/' :: _ => true
  | '/' :: '*' :: _ => true
  | _ => false

def startsMark (s : List Char) : Bool :=
  s.head?.any marks.contains && !startsComment s

/-- Names that are keywords in every form. -/
def neverRaw : List String :=
  ["_", "super", "self", "Self", "crate"]

def literalStarts : List String :=
  ["r\"", "r#\"", "r##", "b\"", "b'", "br\"", "br#", "c\"", "cr\"", "cr#"]

def plainName? (s : List Char) : Option (Taken String) :=
  if s.head?.any startsName then
    let name := s.takeWhile continuesName
    some (String.ofList name, s.drop name.length)
  else none

def name? (s : List Char) : Option (Taken Leaf) :=
  if literalStarts.any fun p => p.toList.isPrefixOf s then none
  else
    match s with
    | 'r' :: '#' :: rest => do
      let (name, rest) ← plainName? rest
      if neverRaw.contains name then none else some (.name true name, rest)
    | s => (plainName? s).map fun (name, rest) => (.name false name, rest)

/-- A lifetime is a name behind a quote that no other quote follows. -/
def lifetime? : List Char → Option (Taken Leaf)
  | '\'' :: rest => do
    let (name, rest) ← plainName? rest
    if rest.head? == some '\'' then none else some (.lifetime name, rest)
  | _ => none

def mark? : List Char → Option (Taken Leaf)
  | [] => none
  | c :: rest =>
    if c == '\'' || !startsMark (c :: rest) then none else some (.mark c (startsMark rest), rest)

def leaf? (s : List Char) : Option (Taken Leaf) :=
  documentation? s <|> (literal? s).map (fun (l, rest) => (.literal l, rest)) <|> lifetime? s <|> mark? s <|>
    name? s

def delimiter? : Char → Option Piece
  | '(' => some (.opening .paren)
  | '[' => some (.opening .bracket)
  | '\x7b' => some (.opening .brace)
  | ')' => some (.closing .paren)
  | ']' => some (.closing .bracket)
  | '\x7d' => some (.closing .brace)
  | _ => none

/-- The piece at the start of a text, or nothing for a gap or comment. -/
def piece? (c : Char) (rest : List Char) : Option (Taken (Option Piece)) :=
  if isGap c then some (none, rest)
  else
    match comment? (c :: rest) with
    | some next => some (none, next)
    | none =>
      match delimiter? c with
      | some p => some (some p, rest)
      | none => (leaf? (c :: rest)).map fun (l, next) => (some (.leaf l), next)

/-- All pieces of a text with their places, or the place where none starts. -/
def pieces (spot : Spot) (s : List Char) : Except Spot (List (Spot × Piece)) :=
  match s with
  | [] => .ok []
  | c :: rest =>
    match piece? c rest with
    | none => .error spot
    | some (piece, next) =>
      if _h : next.length ≤ rest.length then
        let after := spot.after ((c :: rest).take (rest.length + 1 - next.length))
        (pieces after next).map fun more =>
          match piece with
          | some p => (spot, p) :: more
          | none => more
      else .error spot
termination_by s.length

structure Frame where
  spot : Spot
  delimiter : Delimiter
  content : List Tree

/-- The open groups, the innermost first, and the trees outside of them. -/
structure Nesting where
  frames : List Frame
  trees : List Tree

def Nesting.push (n : Nesting) (t : Tree) : Nesting :=
  match n.frames with
  | [] => { n with trees := t :: n.trees }
  | f :: outer => { n with frames := { f with content := t :: f.content } :: outer }

/-- The trees of a leaf. A comment that documents is an attribute that names its text. -/
def Leaf.trees (spot : Spot) : Leaf → List Tree
  | name raw text => [.name spot raw text]
  | mark c joint => [.mark spot c joint]
  | lifetime text => [.lifetime spot text]
  | literal l => [.literal spot l]
  | documentation inner text =>
    let note : List Tree :=
      [.name spot false "doc", .mark spot '=' false, .literal spot ⟨Text.Quoted.encode text, .text text⟩]
    [.mark spot '#' false] ++ (if inner then [.mark spot '!' false] else []) ++
      [.group spot spot .bracket note]

def Nesting.step (n : Nesting) (spot : Spot) : Piece → Except Spot Nesting
  | .leaf l => .ok ((l.trees spot).foldl push n)
  | .opening d => .ok { n with frames := ⟨spot, d, []⟩ :: n.frames }
  | .closing d =>
    match n.frames with
    | [] => .error spot
    | f :: outer =>
      if f.delimiter = d then
        .ok (push { n with frames := outer } (.group f.spot spot d f.content.reverse))
      else .error spot

def trees (text : String) : Except Spot (List Tree) := do
  let s := match text.toList with
    | '\uFEFF' :: rest => rest
    | s => s
  let pieces ← pieces .start s
  let n ← pieces.foldlM (fun n p => Nesting.step n p.1 p.2) ⟨[], []⟩
  match n.frames with
  | [] => .ok n.trees.reverse
  | f :: _ => .error f.spot

end FieldRules.Source
