import FieldRules.Document.Toml.Scalar
import FieldRules.Document.Toml.Table

/-!
# Reading TOML

Values, keys and headers, and the lines of a text, each of which adds to the table of the whole.
-/
set_option autoImplicit false

namespace FieldRules.Toml

def isBareChar (c : Char) : Bool :=
  c.isAlphanum || c == '_' || c == '-'

def keyPart? : List Char → Option (String × List Char)
  | '"' :: rest => basic? [] rest
  | '\'' :: rest => literal? rest
  | s =>
    let word := s.takeWhile isBareChar
    if word.isEmpty then none else some (String.ofList word, s.drop word.length)

def depthLimit : Nat := 80

structure Key where
  path : List String
  last : String

def keyParts? (fuel : Nat) (s : List Char) : Option (List String × List Char) :=
  match fuel with
  | 0 => none
  | fuel + 1 => do
    let (part, s) ← keyPart? (s.dropWhile isGap)
    match s.dropWhile isGap with
    | '.' :: rest => (keyParts? fuel rest).map fun (parts, s) => (part :: parts, s)
    | s => some ([part], s)

def key? (s : List Char) : Option (Key × List Char) := do
  let (parts, s) ← keyParts? depthLimit s
  let last ← parts.getLast?
  if parts.length < depthLimit then some (⟨parts.dropLast, last⟩, s) else none

def skipLines (fuel : Nat) (s : List Char) : Option (List Char) :=
  match fuel with
  | 0 => some s
  | fuel + 1 =>
    match s.dropWhile fun c => isGap c || c == '\n' with
    | '#' :: rest =>
      match rest.dropWhile isPrintable with
      | '\n' :: rest => skipLines fuel rest
      | _ => none
    | s => some s

mutual

def value? (fuel depth : Nat) (s : List Char) : Option (Document × List Char) :=
  match fuel with
  | 0 => none
  | fuel + 1 =>
    match string? s with
    | some r => r.map fun (t, rest) => (.text t, rest)
    | none =>
      match s with
      | '[' :: rest =>
        if depth + 1 < depthLimit then
          (items? fuel (depth + 1) [] rest).map fun (items, rest) => (.list items, rest)
        else none
      | '\x7b' :: rest =>
        if depth + 1 < depthLimit then
          match rest.dropWhile isGap with
          | '\x7d' :: rest => some (.map [], rest)
          | rest =>
            (pairs? fuel (depth + 1) [] rest).map fun (e, rest) => (.map (entriesToDocument e), rest)
        else none
      | s =>
        let word := wordOf s
        (word? word).map fun d => (d, s.drop word.length)

def items? (fuel depth : Nat) (items : List Document) (s : List Char) : Option (List Document × List Char) :=
  match fuel with
  | 0 => none
  | fuel + 1 => do
    match (← skipLines s.length s) with
    | ']' :: rest => some (items.reverse, rest)
    | s =>
      let (d, s) ← value? fuel depth s
      match (← skipLines s.length s) with
      | ',' :: rest => items? fuel depth (d :: items) rest
      | ']' :: rest => some ((d :: items).reverse, rest)
      | _ => none

/-- The entries of a table on one line, at least one, up to its bracket. -/
def pairs? (fuel depth : Nat) (e : Entries) (s : List Char) : Option (Entries × List Char) :=
  match fuel with
  | 0 => none
  | fuel + 1 => do
    let (key, d, s) ← pair? fuel depth s
    let e ← e.set? key.path key.last d
    match s.dropWhile isGap with
    | ',' :: rest => pairs? fuel depth e rest
    | '\x7d' :: rest => some (e, rest)
    | _ => none

def pair? (fuel depth : Nat) (s : List Char) : Option (Key × Document × List Char) :=
  match fuel with
  | 0 => none
  | fuel + 1 => do
    let (key, s) ← key? s
    match s with
    | '=' :: rest =>
      let (d, rest) ← value? fuel depth (rest.dropWhile isGap)
      some (key, d, rest)
    | _ => none

end

/-- The table of the text so far, and the path of the header that the next lines stand under. -/
structure State where
  root : Entries
  path : List String

def header? (close : List Char) (s : List Char) : Option (Key × List Char) := do
  let (key, s) ← key? s
  if close.isPrefixOf s then some (key, s.drop close.length) else none

def entry? (st : State) : List Char → Option (State × List Char)
  | '[' :: '[' :: s => do
    let (key, s) ← header? [']', ']'] s
    let root ← st.root.append? key.path key.last
    some (⟨root, key.path ++ [key.last]⟩, s)
  | '[' :: s => do
    let (key, s) ← header? [']'] s
    let root ← st.root.define? key.path key.last
    some (⟨root, key.path ++ [key.last]⟩, s)
  | s => do
    let (key, d, s) ← pair? (4 * s.length + 4) 0 s
    let root ← Entries.within? (Entries.set? key.path key.last d) st.path st.root
    some (⟨root, st.path⟩, s)

def lineEnd? (s : List Char) : Option (List Char) :=
  let s := s.dropWhile isGap
  let s := match s with
    | '#' :: rest => rest.dropWhile isPrintable
    | s => s
  match s with
  | [] => some []
  | '\n' :: rest => some rest
  | _ => none

def startsEntry (s : List Char) : Bool :=
  s.head?.any fun c => c != '#' && c != '\n'

def State.run? (st : State) (s : List Char) : Option Entries :=
  match s with
  | [] => some st.root
  | c :: rest =>
    let line := (c :: rest).dropWhile isGap
    let read := if startsEntry line then entry? st line else some (st, line)
    match read with
    | none => none
    | some (st, after) =>
      match lineEnd? after with
      | none => none
      | some next => if _h : next.length ≤ rest.length then st.run? next else none
termination_by s.length

/-- The text with one newline for every end of a line and without a byte order mark. -/
def normalize : List Char → List Char
  | [] => []
  | '\r' :: '\n' :: rest => '\n' :: normalize rest
  | c :: rest => c :: normalize rest

def read? (text : String) : Option Document := do
  let s := match text.toList with
    | '\uFEFF' :: rest => rest
    | s => s
  let entries ← State.run? ⟨[], []⟩ (normalize s)
  some (.map (entriesToDocument entries))

end FieldRules.Toml
