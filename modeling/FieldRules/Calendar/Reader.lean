import FieldRules.Calendar.Instant
import FieldRules.Double.Reader
import FieldRules.Text.Blank

/-!
# Reading dates

`Instant.read?` takes RFC 3339 texts. `Instant.readStored?` reads dates of stored documents: it also
takes signed years of any length, fewer digits, and blanks between the parts.
-/
set_option autoImplicit false

namespace FieldRules

namespace Clock

def digits? (n : Nat) (s : List Char) : Option (Nat × List Char) :=
  let front := s.take n
  if front.length = n && front.all Char.isDigit then some (Numeral.value front, s.drop n) else none

/-- One to `n` digits at the start, as many as there are. -/
def upToDigits? (n : Nat) (s : List Char) : Option (Nat × List Char) :=
  let front := (s.take n).takeWhile Char.isDigit
  if front.isEmpty then none else some (Numeral.value front, s.drop front.length)

def char? (c : Char) : List Char → Option (List Char)
  | d :: rest => if c = d then some rest else none
  | [] => none

def separator? : List Char → Option (List Char)
  | c :: rest => if c = 'T' || c = 't' || c = ' ' then some rest else none
  | [] => none

/-- An optional fraction of a second, in nanoseconds; digits after the ninth are dropped. -/
def fraction? : List Char → Option (Nat × List Char)
  | '.' :: rest =>
    let digits := rest.takeWhile Char.isDigit
    if digits.isEmpty then none
    else
      let kept := digits.take 9
      some (Numeral.value (kept.rightpad 9 '0'), rest.dropWhile Char.isDigit)
  | rest => some (0, rest)

/-- The sign of an offset; the typographic minus counts as one. -/
def offsetSign? : List Char → Option (Int × List Char)
  | '+' :: rest => some (1, rest)
  | '-' :: rest => some (-1, rest)
  | '−' :: rest => some (-1, rest)
  | _ => none

/-- An offset in seconds, `Z` or hours and minutes; `colon` takes what stands between them. -/
def offset? (colon : List Char → Option (List Char)) : List Char → Option (Int × List Char)
  | 'Z' :: rest => some (0, rest)
  | 'z' :: rest => some (0, rest)
  | s => do
    let (sign, s) ← offsetSign? s
    let (hours, s) ← digits? 2 s
    let s ← colon s
    let (minutes, s) ← digits? 2 s
    if minutes < 60 then some (sign * (hours * 3600 + minutes * 60 : Nat), s) else none

/-- The time of day as seconds and nanoseconds; second 60 is the leap second after second 59. -/
def timeOfDay? (hour minute second nanos : Nat) : Option (Nat × Nat) :=
  if hour < 24 && minute < 60 && second ≤ 60 then
    if second = 60 then some (hour * 3600 + minute * 60 + 59, nanos + 1000000000)
    else some (hour * 3600 + minute * 60 + second, nanos)
  else none

end Clock

namespace Instant

open Clock

/-- The instant at a time of day on a date, seen from an offset below a whole day. -/
def ofParts? (date : CivilDate) (time : Nat × Nat) (offset : Int) : Option Instant :=
  if h : time.2 < 2000000000 then
    if date.isValid && offset.natAbs < 86400 then
      some ⟨date.dayNumber * 86400 + time.1 - offset, time.2, h⟩
    else none
  else none

def date? (s : List Char) : Option (CivilDate × List Char) := do
  let (year, s) ← digits? 4 s
  let s ← char? '-' s
  let (month, s) ← digits? 2 s
  let s ← char? '-' s
  let (day, s) ← digits? 2 s
  some (⟨year, month, day⟩, s)

def time? (s : List Char) : Option ((Nat × Nat) × List Char) := do
  let (hour, s) ← digits? 2 s
  let s ← char? ':' s
  let (minute, s) ← digits? 2 s
  let s ← char? ':' s
  let (second, s) ← digits? 2 s
  let (nanos, s) ← fraction? s
  let time ← timeOfDay? hour minute second nanos
  some (time, s)

def readExact? (s : List Char) : Option Instant := do
  let (date, s) ← date? s
  let s ← separator? s
  let (time, s) ← time? s
  let (offset, s) ← offset? (char? ':') s
  if s.isEmpty then ofParts? date time offset else none

def read? (s : String) : Option Instant :=
  readExact? (Text.trimChars s.toList)

/-- A year of up to four digits, or of any length after a sign. -/
def looseYear? : List Char → Option (Int × List Char)
  | '-' :: s => (upToDigits? s.length s).map fun (n, rest) => (-(n : Int), rest)
  | '+' :: s => (upToDigits? s.length s).map fun (n, rest) => ((n : Int), rest)
  | s => (upToDigits? 4 s).map fun (n, rest) => ((n : Int), rest)

def looseNumber? (s : List Char) : Option (Nat × List Char) :=
  upToDigits? 2 (Text.trimStart s)

def looseChar? (c : Char) (s : List Char) : Option (List Char) :=
  char? c (Text.trimStart s)

/-- `UTC` in any case, or an offset whose parts may stand apart. -/
def looseOffset? (s : List Char) : Option (Int × List Char) :=
  if String.ofList ((s.take 3).map Char.toUpper) == "UTC" then some (0, s.drop 3)
  else offset? (fun s => some (s.dropWhile fun c => c == ':' || Text.isBlank c)) s

def storedYears (year : Int) : Bool :=
  -262143 ≤ year && year ≤ 262142

/-- Year, month and day, blanks allowed between them. -/
def looseDate? (s : List Char) : Option (CivilDate × List Char) := do
  let (year, s) ← looseYear? (Text.trimStart s)
  let s ← looseChar? '-' s
  let (month, s) ← looseNumber? s
  let s ← looseChar? '-' s
  let (day, s) ← looseNumber? s
  if storedYears year then some (⟨year, month, day⟩, s) else none

/-- Time of day, blanks allowed between its parts. -/
def looseTime? (s : List Char) : Option ((Nat × Nat) × List Char) := do
  let (hour, s) ← looseNumber? s
  let s ← looseChar? ':' s
  let (minute, s) ← looseNumber? s
  let s ← looseChar? ':' s
  let (second, s) ← looseNumber? s
  let (nanos, s) ← fraction? s
  let time ← timeOfDay? hour minute second nanos
  some (time, s)

def readStored? (text : String) : Option Instant := do
  let (date, s) ← looseDate? text.toList
  let s ← separator? s
  let (time, s) ← looseTime? s
  let (offset, s) ← looseOffset? (Text.trimStart s)
  let instant ← ofParts? date time offset
  let stored := CivilDate.ofDayNumber (instant.seconds / 86400)
  if (Text.trimStart s).isEmpty && storedYears stored.year then some instant else none

end Instant

/-- A calendar day without a time. -/
structure Day where
  date : CivilDate
  deriving DecidableEq

/-- A date and a time of day without an offset, named by the instant it is in universal time. -/
structure LocalTime where
  asUniversal : Instant
  deriving DecidableEq

def Day.start (d : Day) : Instant :=
  { Instant.epoch with seconds := d.date.dayNumber * 86400 }

def Day.read? (text : String) : Option Day := do
  let (date, s) ← Instant.looseDate? text.toList
  if (Text.trimStart s).isEmpty && date.isValid then some ⟨date⟩ else none

def LocalTime.read? (text : String) : Option LocalTime := do
  let (date, s) ← Instant.looseDate? text.toList
  let s ← Instant.looseChar? 'T' s
  let (time, s) ← Instant.looseTime? s
  if (Text.trimStart s).isEmpty then (Instant.ofParts? date time 0).map LocalTime.mk else none

end FieldRules
