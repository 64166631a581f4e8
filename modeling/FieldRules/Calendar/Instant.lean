import FieldRules.Calendar.Civil

/-!
# Instants

An instant is a whole second of universal time and a fraction of it. A leap second is the fraction
beyond one second of the second before it.
-/
set_option autoImplicit false

namespace FieldRules

/-- Seconds from 1970-01-01T00:00:00Z and nanoseconds, which go on up to two seconds in a leap second. -/
structure Instant where
  seconds : Int
  nanos : Nat
  nanos_lt : nanos < 2000000000 := by omega
  deriving DecidableEq

namespace Instant

def epoch : Instant :=
  { seconds := 0, nanos := 0 }

/-- The earlier second comes first; within a second, the smaller fraction. -/
def isBefore (a b : Instant) : Bool :=
  a.seconds < b.seconds || (a.seconds = b.seconds && a.nanos < b.nanos)

def padded (width n : Nat) : List Char :=
  let digits := Nat.toDigits 10 n
  List.replicate (width - digits.length) '0' ++ digits

/-- Four digits, with a sign where the year has no four-digit form. -/
def yearText (year : Int) : List Char :=
  if 0 ≤ year ∧ year ≤ 9999 then padded 4 year.toNat
  else (if year < 0 then '-' else '+') :: padded 4 year.natAbs

/-- The shortest of no, three, six or nine digits that is exact. -/
def fractionText (nanos : Nat) : List Char :=
  if nanos = 0 then []
  else if nanos % 1000000 = 0 then '.' :: padded 3 (nanos / 1000000)
  else if nanos % 1000 = 0 then '.' :: padded 6 (nanos / 1000)
  else '.' :: padded 9 nanos

def clockText (t : Instant) : List Char :=
  let date := CivilDate.ofDayNumber (t.seconds / 86400)
  let second := (t.seconds % 86400).toNat
  let leap := t.nanos / 1000000000
  yearText date.year ++ '-' :: padded 2 date.month ++ '-' :: padded 2 date.day ++
    'T' :: padded 2 (second / 3600) ++ ':' :: padded 2 (second / 60 % 60) ++
    ':' :: padded 2 (second % 60 + leap) ++ fractionText (t.nanos % 1000000000)

/-- RFC 3339 text with the offset written `+00:00`. -/
def display (t : Instant) : String :=
  String.ofList (t.clockText ++ ['+', '0', '0', ':', '0', '0'])

/-- RFC 3339 text with the offset written `Z`. -/
def stored (t : Instant) : String :=
  String.ofList (t.clockText ++ ['Z'])

end Instant
end FieldRules
