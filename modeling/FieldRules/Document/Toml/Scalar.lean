import FieldRules.Calendar.Civil
import FieldRules.Document.Basic
import FieldRules.Double.Reader
import FieldRules.IntKind

/-!
# Scalars of TOML

Strings in four forms, and the words for Booleans, integers, other numbers and dates.
-/
set_option autoImplicit false

namespace FieldRules.Toml

def isPrintable (c : Char) : Bool :=
  c == '\t' || (0x20 ≤ c.toNat && c.toNat != 0x7F)

def hexDigit? (c : Char) : Option Nat :=
  if c.isDigit then some (c.toNat - '0'.toNat)
  else if 'a' ≤ c && c ≤ 'f' then some (c.toNat - 'a'.toNat + 10)
  else if 'A' ≤ c && c ≤ 'F' then some (c.toNat - 'A'.toNat + 10)
  else none

def escape? : Char → Option Char
  | 'b' => some '\x08'
  | 't' => some '\t'
  | 'n' => some '\n'
  | 'f' => some '\x0c'
  | 'r' => some '\r'
  | '"' => some '"'
  | '\\' => some '\\'
  | _ => none

def escapeDigits : Char → Nat
  | 'u' => 4
  | 'U' => 8
  | _ => 0

def escaped? : List Char → Option (Char × Nat)
  | [] => none
  | c :: rest =>
    match escape? c with
    | some e => some (e, 1)
    | none => do
      let n := escapeDigits c
      if n == 0 || rest.length < n then none
      else
        let digits ← (rest.take n).mapM hexDigit?
        let code := digits.foldl (fun n d => 16 * n + d) 0
        if code.isValidChar then some (Char.ofNat code, n + 1) else none

/-- A quoted text up to its closing quote, read backwards into `done`. -/
def basic? (done : List Char) (s : List Char) : Option (String × List Char) :=
  match s with
  | [] => none
  | c :: rest =>
    if c == '"' then some (String.ofList done.reverse, rest)
    else if c == '\\' then
      match escaped? rest with
      | some (e, n) => basic? (e :: done) (rest.drop n)
      | none => none
    else if isPrintable c then basic? (c :: done) rest
    else none
termination_by s.length
decreasing_by all_goals (simp_all; try omega)

def literal? (s : List Char) : Option (String × List Char) :=
  let text := s.takeWhile fun c => isPrintable c && c != '\''
  match s.drop text.length with
  | '\'' :: rest => some (String.ofList text, rest)
  | _ => none

/-- A run of quotes inside a text over several lines: the number of them that belong to the text, and
whether the text ends with the run. Up to two quotes may stand before the closing three. -/
def closing (run : Nat) : Nat × Bool :=
  if run < 3 then (run, false) else (min (run - 3) 2, true)

def isGap (c : Char) : Bool :=
  c == ' ' || c == '\t'

/-- The text behind a backslash at the end of a line, without the gaps that follow. -/
def continued? (s : List Char) : Option (List Char) :=
  match s.dropWhile isGap with
  | '\n' :: rest => some (rest.dropWhile fun c => isGap c || c == '\n')
  | _ => none

theorem length_continued?_le {s rest : List Char} (h : continued? s = some rest) :
    rest.length ≤ s.length := by
  unfold continued? at h
  split at h
  · rename_i more hMore
    have hGaps := (List.dropWhile_suffix isGap (l := s)).length_le
    rw [hMore] at hGaps
    have hRest := (List.dropWhile_suffix (fun c => isGap c || c == '\n') (l := more)).length_le
    simp only [Option.some.injEq] at h
    subst h
    simp only [List.length_cons] at hGaps
    omega
  · simp at h

/-- A text over several lines, up to its closing quotes. In the literal form a backslash is itself. -/
def lines? (quote : Char) (done : List Char) (s : List Char) : Option (String × List Char) :=
  match s with
  | [] => none
  | c :: rest =>
    if c == quote then
      let run := 1 + (rest.takeWhile (· == quote)).length
      let (kept, ended) := closing run
      if ended then
        some (String.ofList (List.replicate kept quote ++ done).reverse, rest.drop (kept + 2))
      else lines? quote (List.replicate kept quote ++ done) (rest.drop (kept - 1))
    else if c == '\\' && quote == '"' then
      match _h : continued? rest with
      | some rest => lines? quote done rest
      | none =>
        match escaped? rest with
        | some (e, n) => lines? quote (e :: done) (rest.drop n)
        | none => none
    else if isPrintable c || c == '\n' then lines? quote (c :: done) rest
    else none
termination_by s.length
decreasing_by
  all_goals simp_wf
  all_goals first
    | omega
    | (have hLe := length_continued?_le _h; omega)

/-- A line end right behind the opening quotes does not count. -/
def withoutFirstLineEnd : List Char → List Char
  | '\n' :: rest => rest
  | s => s

/-- A string of any form; `none` if no quote stands here. -/
def string? : List Char → Option (Option (String × List Char))
  | '"' :: '"' :: '"' :: rest => some (lines? '"' [] (withoutFirstLineEnd rest))
  | '\'' :: '\'' :: '\'' :: rest => some (lines? '\'' [] (withoutFirstLineEnd rest))
  | '"' :: rest => some (basic? [] rest)
  | '\'' :: rest => some (literal? rest)
  | _ => none

def digits? (isDigit : Char → Bool) : List Char → Option (List Char)
  | [] => none
  | [c] => if isDigit c then some [c] else none
  | c :: '_' :: rest => if isDigit c then (digits? isDigit rest).map (c :: ·) else none
  | c :: rest => if isDigit c then (digits? isDigit rest).map (c :: ·) else none

def isBinaryDigit (c : Char) : Bool :=
  c == '0' || c == '1'

def isOctalDigit (c : Char) : Bool :=
  '0' ≤ c && c ≤ '7'

/-- Digits without zeros in front of others. -/
def decimal? (s : List Char) : Option (List Char) :=
  match digits? Char.isDigit s with
  | some ('0' :: _ :: _) => none
  | r => r

def natural? (base : Nat) (isDigit : Char → Bool) (s : List Char) : Option Nat := do
  let ds ← digits? isDigit s
  let ds ← ds.mapM hexDigit?
  some (ds.foldl (fun n d => base * n + d) 0)

def int? : List Char → Option Int
  | '0' :: 'x' :: rest => (natural? 16 (fun c => (hexDigit? c).isSome) rest).map Int.ofNat
  | '0' :: 'o' :: rest => (natural? 8 isOctalDigit rest).map Int.ofNat
  | '0' :: 'b' :: rest => (natural? 2 isBinaryDigit rest).map Int.ofNat
  | s =>
    let (negative, digits) := Numeral.splitSign s
    (decimal? digits).map fun ds => if negative then -(Numeral.value ds : Int) else Numeral.value ds

def exponent? (s : List Char) : Option Int :=
  let (negative, digits) := Numeral.splitSign s
  (digits? Char.isDigit digits).map fun ds => if negative then -(Numeral.value ds : Int) else Numeral.value ds

def numeral? (s : List Char) : Option Numeral := do
  let (negative, s) := Numeral.splitSign s
  let isMark (c : Char) : Bool := c == 'e' || c == 'E'
  let mantissa := s.takeWhile fun c => !isMark c
  let whole := mantissa.takeWhile (· != '.')
  let whole' ← decimal? whole
  let fraction ← match mantissa.drop whole.length with
    | [] => some []
    | _ :: rest => digits? Char.isDigit rest
  let exponent ← match s.drop mantissa.length with
    | [] => some 0
    | _ :: rest => exponent? rest
  if mantissa.length == whole.length && s.length == mantissa.length then none
  else some ⟨negative, Numeral.valueFrom (Numeral.value whole') fraction, exponent - fraction.length⟩

/-- A number; one that is too large is an error, unless it is negative. -/
def float? (s : List Char) : Option Double :=
  let (negative, word) := Numeral.splitSign s
  if word == "inf".toList then some (.infinite negative)
  else if word == "nan".toList then some .nan
  else
    (numeral? s).bind fun n =>
      (some (Double.ofDecimal n.negative n.digits n.exponent)).filter fun x => x != .infinite false

def field? (n : Nat) (s : List Char) : Option Nat :=
  if s.length == n && s.all Char.isDigit then some (Numeral.value s) else none

def isDate (s : List Char) : Bool :=
  match field? 4 (s.take 4), s[4]?, field? 2 ((s.drop 5).take 2), s[7]?, field? 2 (s.drop 8) with
  | some y, some '-', some m, some '-', some d => CivilDate.isValid ⟨y, m, d⟩
  | _, _, _, _, _ => false

/-- A time of day; a fraction of a second may follow the seconds. -/
def isTime (s : List Char) : Bool :=
  let fraction := match s.drop 8 with
    | [] => true
    | '.' :: rest => !rest.isEmpty && rest.all Char.isDigit
    | _ => false
  match field? 2 (s.take 2), s[2]?, field? 2 ((s.drop 3).take 2), s[5]?, field? 2 ((s.drop 6).take 2) with
  | some h, some ':', some m, some ':', some sec => h ≤ 23 && m ≤ 59 && sec ≤ 60 && fraction
  | _, _, _, _, _ => false

def isOffset : List Char → Bool
  | [] => true
  | ['Z'] => true
  | ['z'] => true
  | c :: rest =>
    Numeral.isSign c &&
      match field? 2 (rest.take 2), rest[2]?, field? 2 (rest.drop 3) with
      | some h, some ':', some m => h ≤ 23 && m ≤ 59
      | _, _, _ => false

def isTimeWithOffset (s : List Char) : Bool :=
  let time := s.takeWhile fun c => c.isDigit || c == ':' || c == '.'
  isTime time && isOffset (s.drop time.length)

def isDateTime (s : List Char) : Bool :=
  isDate s || isTime s ||
    (isDate (s.take 10) && s[10]?.any (fun c => c == 'T' || c == 't' || c == ' ') &&
      isTimeWithOffset (s.drop 11))

/-- The node of a date: a map of its own kind, which no value is read from. -/
def dateNode (s : List Char) : Document :=
  .map [("datetime", .text (String.ofList s))]

def isWordChar (c : Char) : Bool :=
  c.isAlphanum || c == '_' || c == '+' || c == '-' || c == '.' || c == ':'

/-- The characters of an unquoted scalar. Between a date and a time there may be a space. -/
def wordOf (s : List Char) : List Char :=
  let word := s.takeWhile isWordChar
  match s.drop word.length with
  | ' ' :: a :: rest =>
    if isDate word && a.isDigit then word ++ ' ' :: (a :: rest).takeWhile isWordChar else word
  | _ => word

def word? (s : List Char) : Option Document :=
  if s == "true".toList then some (.bool true)
  else if s == "false".toList then some (.bool false)
  else if isDateTime s then some (dateNode s)
  else
    match float? s with
    | some x => some (.float x)
    | none => ((int? s).filter (IntKind.signed 64).holds).map .int

end FieldRules.Toml
