import FieldRules.Document.Json.Number

/-!
# Reading JSON

A text is split into tokens, and a stack of open lists and maps takes the tokens one by one.
-/
set_option autoImplicit false

namespace FieldRules.Json

inductive Token where
  | openList
  | closeList
  | openMap
  | closeMap
  | comma
  | colon
  /-- A string; one with half of a surrogate pair has no text. -/
  | text (s : Option String)
  /-- A number, `true`, `false` or `null`. -/
  | scalar (d : Document)

/-- A character of a string as it is written: itself, or by its sixteen-bit code. -/
inductive Piece where
  | char (c : Char)
  | unit (n : Nat)

def hexDigit? (c : Char) : Option Nat :=
  if c.isDigit then some (c.toNat - '0'.toNat)
  else if 'a' ≤ c && c ≤ 'f' then some (c.toNat - 'a'.toNat + 10)
  else if 'A' ≤ c && c ≤ 'F' then some (c.toNat - 'A'.toNat + 10)
  else none

def simpleEscape? : Char → Option Char
  | '"' => some '"'
  | '\\' => some '\\'
  | '/' => some '/'
  | 'b' => some '\x08'
  | 'f' => some '\x0c'
  | 'n' => some '\n'
  | 'r' => some '\r'
  | 't' => some '\t'
  | _ => none

def pieces? : List Char → Option (List Piece × List Char)
  | [] => none
  | '"' :: rest => some ([], rest)
  | '\\' :: 'u' :: a :: b :: c :: d :: rest => do
    let a ← hexDigit? a
    let b ← hexDigit? b
    let c ← hexDigit? c
    let d ← hexDigit? d
    let (more, rest) ← pieces? rest
    some (.unit (a * 4096 + b * 256 + c * 16 + d) :: more, rest)
  | '\\' :: c :: rest => do
    let c ← simpleEscape? c
    let (more, rest) ← pieces? rest
    some (.char c :: more, rest)
  | c :: rest =>
    if c.toNat < 0x20 || c == '\\' then none
    else (pieces? rest).map fun (more, rest) => (.char c :: more, rest)

def isHigh (n : Nat) : Bool :=
  0xD800 ≤ n && n ≤ 0xDBFF

def isLow (n : Nat) : Bool :=
  0xDC00 ≤ n && n ≤ 0xDFFF

/-- The characters that pieces spell; surrogate codes stand for one only in pairs. -/
def assemble? : List Piece → Option (List Char)
  | [] => some []
  | .char c :: rest => (assemble? rest).map (c :: ·)
  | .unit n :: .unit m :: rest =>
    if isHigh n then
      if isLow m then
        (assemble? rest).map (Char.ofNat (0x10000 + (n - 0xD800) * 0x400 + (m - 0xDC00)) :: ·)
      else none
    else if isLow n then none
    else (assemble? (.unit m :: rest)).map (Char.ofNat n :: ·)
  | .unit n :: rest =>
    if isHigh n || isLow n then none else (assemble? rest).map (Char.ofNat n :: ·)

def isGap (c : Char) : Bool :=
  c == ' ' || c == '\n' || c == '\r' || c == '\t'

def isNumberChar (c : Char) : Bool :=
  c.isDigit || c == '-' || c == '+' || c == '.' || c == 'e' || c == 'E'

def word? (s : List Char) : Option Document :=
  if s == ['n', 'u', 'l', 'l'] then some .null
  else if s == ['t', 'r', 'u', 'e'] then some (.bool true)
  else if s == ['f', 'a', 'l', 's', 'e'] then some (.bool false)
  else none

def token? (c : Char) (rest : List Char) : Option (Token × List Char) :=
  match c with
  | '[' => some (.openList, rest)
  | ']' => some (.closeList, rest)
  | '\x7b' => some (.openMap, rest)
  | '\x7d' => some (.closeMap, rest)
  | ',' => some (.comma, rest)
  | ':' => some (.colon, rest)
  | '"' => (pieces? rest).map fun (pieces, rest) => (.text ((assemble? pieces).map String.ofList), rest)
  | c =>
    if c.isAlpha then
      (word? ((c :: rest).takeWhile Char.isAlpha)).map fun d => (.scalar d, rest.dropWhile Char.isAlpha)
    else
      (Spelled.read? ((c :: rest).takeWhile isNumberChar)).map fun n =>
        (.scalar n.node, rest.dropWhile isNumberChar)

/-- All tokens of a text. A token never takes back what was read, so the rest only gets shorter. -/
def tokens? : List Char → Option (List Token)
  | [] => some []
  | c :: rest =>
    if isGap c then tokens? rest
    else
      match token? c rest with
      | none => none
      | some (token, next) =>
        if _h : next.length ≤ rest.length then (tokens? next).map (token :: ·) else none
termination_by s => s.length

/-- An open list or map, its entries newest first. -/
inductive Frame where
  | list (items : List Document)
  | map (entries : List (String × Document))
  /-- A map whose next value goes under a key. -/
  | entry (entries : List (String × Document)) (key : String)

inductive Expect where
  /-- A value; at the start of a list also its end. -/
  | value (closing : Bool)
  /-- A key; at the start of a map also its end. -/
  | key (closing : Bool)
  | colon
  /-- After a value: a comma or an end. -/
  | next

structure State where
  frames : List Frame
  expect : Expect
  /-- The finished document, once no frame is open. -/
  result : Option Document

def State.start : State :=
  ⟨[], .value false, none⟩

/-- Lists and maps are read up to this depth; deeper ones have no value. -/
def depthLimit : Nat := 127

def State.place (st : State) (d : Document) : State :=
  match st.frames with
  | [] => ⟨[], .next, some d⟩
  | .list items :: outer => ⟨.list (d :: items) :: outer, .next, none⟩
  | .entry entries key :: outer => ⟨.map ((key, d) :: entries) :: outer, .next, none⟩
  | .map entries :: outer => ⟨.map entries :: outer, .next, none⟩

def State.close (st : State) (d : Document) : State :=
  State.place { st with frames := st.frames.tail } (if st.frames.length ≤ depthLimit then d else .irregular)

def State.step? (st : State) (t : Token) : Option State :=
  match st.expect, t with
  | .value _, .openList => some ⟨.list [] :: st.frames, .value true, none⟩
  | .value _, .openMap => some ⟨.map [] :: st.frames, .key true, none⟩
  | .value _, .text (some s) => some (st.place (.text s))
  | .value _, .text none => some (st.place .irregular)
  | .value _, .scalar d => some (st.place d)
  | .value true, .closeList => some (st.close (.list []))
  | .key true, .closeMap => some (st.close (.map []))
  | .key _, .text (some key) =>
    match st.frames with
    | .map entries :: outer => some ⟨.entry entries key :: outer, .colon, none⟩
    | _ => none
  | .colon, .colon => some ⟨st.frames, .value false, none⟩
  | .next, .comma =>
    match st.frames with
    | .list _ :: _ => some ⟨st.frames, .value false, none⟩
    | .map _ :: _ => some ⟨st.frames, .key false, none⟩
    | _ => none
  | .next, .closeList =>
    match st.frames with
    | .list items :: _ => some (st.close (.list items.reverse))
    | _ => none
  | .next, .closeMap =>
    match st.frames with
    | .map entries :: _ => some (st.close (.map entries.reverse))
    | _ => none
  | _, _ => none

def read? (text : String) : Option Document := do
  let tokens ← tokens? text.toList
  let final ← tokens.foldlM State.step? .start
  final.result

/-- The one value of a JSON text, as a plain tree: every node has a value, keys are in order. -/
def readPlain? (text : String) : Option Document := do
  let d ← read? text
  if d.regular then some d.sorted else none

end FieldRules.Json
