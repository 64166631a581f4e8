import FieldRules.Double.Reader
import FieldRules.Source.Token
import FieldRules.Text.Identifier

/-!
# Literals of source texts

Each reader takes a literal from the start of a text and gives what it stands for and the rest.
-/
set_option autoImplicit false

namespace FieldRules.Source

open Text (startsName continuesName)

abbrev Taken (α : Type) := α × List Char

/-- The kinds of quoted literals, which differ in what may be escaped. -/
inductive QuoteKind where
  | text
  | bytes
  | terminated
  deriving DecidableEq

def hexDigit? (c : Char) : Option Nat :=
  if c.isDigit then some (c.toNat - '0'.toNat)
  else if 'a' ≤ c && c ≤ 'f' then some (c.toNat - 'a'.toNat + 10)
  else if 'A' ≤ c && c ≤ 'F' then some (c.toNat - 'A'.toNat + 10)
  else none

/-- The digits of a code point up to the closing brace: at most six, with underscores after the first. -/
def codePoint? (count value : Nat) : List Char → Option (Taken Char)
  | [] => none
  | c :: rest =>
    match hexDigit? c with
    | some d => if count == 6 then none else codePoint? (count + 1) (16 * value + d) rest
    | none =>
      if count == 0 then none
      else if c == '_' then codePoint? count value rest
      else if c == '\x7d' && value.isValidChar then some (Char.ofNat value, rest)
      else none

def isLineGap (c : Char) : Bool :=
  c == ' ' || c == '\t' || c == '\n' || c == '\r'

/-- The character of a two-digit escape. In texts it is an ASCII one. -/
def byteEscape? (kind : QuoteKind) : List Char → Option (Taken Char)
  | a :: b :: rest => do
    let a ← hexDigit? a
    let b ← hexDigit? b
    if kind == .text && 8 ≤ a then none
    else if kind == .terminated && a == 0 && b == 0 then none
    else some (Char.ofNat (16 * a + b), rest)
  | _ => none

/-- The character of an escape, behind its backslash. -/
def escape? (kind : QuoteKind) : List Char → Option (Taken Char)
  | 'n' :: rest => some ('\n', rest)
  | 'r' :: rest => some ('\r', rest)
  | 't' :: rest => some ('\t', rest)
  | '\\' :: rest => some ('\\', rest)
  | '\'' :: rest => some ('\'', rest)
  | '"' :: rest => some ('"', rest)
  | '0' :: rest => if kind == .terminated then none else some ('\x00', rest)
  | 'x' :: rest => byteEscape? kind rest
  | 'u' :: '\x7b' :: rest => if kind == .bytes then none else codePoint? 0 0 rest
  | _ => none

/-- Every carriage return stands before a newline. -/
def pairedReturns : List Char → Bool
  | [] => true
  | '\r' :: '\n' :: rest => pairedReturns rest
  | c :: rest => c != '\r' && pairedReturns rest

/-- The gap behind a backslash at the end of a line; something has to follow it. -/
def continuation? (s : List Char) : Option (List Char) :=
  let gap := s.takeWhile isLineGap
  if pairedReturns gap && !(s.drop gap.length).isEmpty then some (s.drop gap.length) else none

def isPlain (kind : QuoteKind) (c : Char) : Bool :=
  match kind with
  | .text => true
  | .bytes => c.toNat < 128
  | .terminated => c != '\x00'

/-- A quoted literal up to its closing quote, its text so far backwards. -/
def cooked? (kind : QuoteKind) (done : List Char) (s : List Char) : Option (Taken (List Char)) :=
  match s with
  | [] => none
  | c :: rest =>
    if c == '"' then some (done.reverse, rest)
    else if c == '\\' then
      if rest.head?.any fun d => d == '\n' || d == '\r' then
        match continuation? rest with
        | some next => if _h : next.length ≤ rest.length then cooked? kind done next else none
        | none => none
      else
        match escape? kind rest with
        | some (e, next) => if _h : next.length ≤ rest.length then cooked? kind (e :: done) next else none
        | none => none
    else if c == '\r' then
      match rest with
      | '\n' :: next => cooked? kind ('\n' :: done) next
      | _ => none
    else if isPlain kind c then cooked? kind (c :: done) rest
    else none
termination_by s.length
decreasing_by all_goals (simp_all; try omega)

/-- A raw literal behind its opening quote, up to a quote with as many number signs as before it. -/
def rawText? (kind : QuoteKind) (hashes : Nat) (done : List Char) : List Char → Option (Taken (List Char))
  | [] => none
  | c :: rest =>
    if c == '"' && (rest.take hashes).length == hashes && (rest.take hashes).all (· == '#') then
      some (done.reverse, rest.drop hashes)
    else if c == '\r' && rest.head? != some '\n' then none
    else if isPlain kind c then rawText? kind hashes (c :: done) rest
    else none

def raw? (kind : QuoteKind) (s : List Char) : Option (Taken (List Char)) :=
  let hashes := (s.takeWhile (· == '#')).length
  match s.drop hashes with
  | '"' :: rest => if hashes ≤ 255 then rawText? kind hashes [] rest else none
  | _ => none

def quotedChar? (kind : QuoteKind) (s : List Char) : Option (Taken Unit) := do
  let next ← match s with
    | [] => none
    | '\\' :: rest => (escape? kind rest).map Prod.snd
    | c :: rest => if isPlain kind c then some rest else none
  match next with
  | '\'' :: rest => some ((), rest)
  | _ => none

/-- The text behind a name that may follow a literal as its suffix. -/
def skipSuffix (s : List Char) : List Char :=
  if s.head?.any startsName then s.dropWhile continuesName else s

def quoted? : List Char → Option (Taken LiteralValue)
  | '"' :: rest => textOf (cooked? .text [] rest)
  | 'r' :: rest => textOf (raw? .text rest)
  | 'b' :: '"' :: rest => opaqueOf (cooked? .bytes [] rest)
  | 'b' :: 'r' :: rest => opaqueOf (raw? .bytes rest)
  | 'c' :: '"' :: rest => opaqueOf (cooked? .terminated [] rest)
  | 'c' :: 'r' :: rest => opaqueOf (raw? .terminated rest)
  | 'b' :: '\'' :: rest => opaqueOf (quotedChar? .bytes rest)
  | '\'' :: rest => opaqueOf (quotedChar? .text rest)
  | _ => none
where
  textOf (r : Option (Taken (List Char))) : Option (Taken LiteralValue) :=
    r.map fun (s, rest) => (.text (String.ofList s), skipSuffix rest)
  opaqueOf {α : Type} (r : Option (Taken α)) : Option (Taken LiteralValue) :=
    r.map fun (_, rest) => (.other, skipSuffix rest)

/-- No name goes on right behind a number. -/
def endsNumber (s : List Char) : Bool :=
  !s.head?.any continuesName

def isDigitOrGap (c : Char) : Bool :=
  c.isDigit || c == '_'

/-- The digits before an exponent or suffix, and whether there is a point among them. A point does not
belong to the number if another point or a name follows. -/
def mantissa? (s : List Char) : Option (Taken (List Char × Bool)) :=
  let whole := s.takeWhile isDigitOrGap
  if !s.head?.any Char.isDigit then none
  else
    match s.drop whole.length with
    | '.' :: rest =>
      if rest.head?.any fun c => c == '.' || startsName c then none
      else
        let fraction := rest.takeWhile isDigitOrGap
        some ((whole ++ '.' :: fraction, true), rest.drop fraction.length)
    | rest => some ((whole, false), rest)

/-- An exponent with its letter; there is at least one digit in it. -/
def exponent? : List Char → Option (Taken (List Char))
  | [] => none
  | e :: rest =>
    if e == 'e' || e == 'E' then
      let gap := rest.takeWhile (· == '_')
      let (sign, digits) := match rest.drop gap.length with
        | '+' :: more => (['+'], more)
        | '-' :: more => (['-'], more)
        | more => ([], more)
      let taken := digits.takeWhile isDigitOrGap
      if taken.any Char.isDigit then some (e :: sign ++ taken, digits.drop taken.length) else none
    else none

def float? (s : List Char) : Option (Taken LiteralValue) := do
  let ((mantissa, pointed), rest) ← mantissa? s
  let (number, rest) ← match exponent? rest with
    | some (exponent, rest) => some (mantissa ++ exponent, rest)
    | none => if pointed then some (mantissa, rest) else none
  let rest := skipSuffix rest
  if endsNumber rest then
    let x ← Double.read? (String.ofList (number.filter (· != '_')))
    some (.float x, rest)
  else none

def based : List Char → Nat × List Char
  | '0' :: 'x' :: rest => (16, rest)
  | '0' :: 'o' :: rest => (8, rest)
  | '0' :: 'b' :: rest => (2, rest)
  | s => (10, s)

def isDigitOf (base : Nat) (c : Char) : Bool :=
  c.isDigit || c == '_' || (base == 16 && (hexDigit? c).isSome)

def int? (s : List Char) : Option (Taken LiteralValue) := do
  let (base, s) := based s
  let digits := s.takeWhile (isDigitOf base)
  let values ← (digits.filter (· != '_')).mapM hexDigit?
  let rest := skipSuffix (s.drop digits.length)
  if values.isEmpty || values.any (base ≤ ·) || !endsNumber rest then none
  else if base == 10 && s.head? == some '_' then none
  else some (.int (values.foldl (fun n d => base * n + d) 0), rest)

def literal? (s : List Char) : Option (Taken Literal) := do
  let (value, rest) ← quoted? s <|> float? s <|> int? s
  some (⟨String.ofList (s.take (s.length - rest.length)), value⟩, rest)

end FieldRules.Source
