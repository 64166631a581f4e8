import FieldRules.Calendar.Reader
import FieldRules.Proofs.Calendar.Civil
import FieldRules.Proofs.Double.Numeral
import FieldRules.Proofs.Text.Blank
import Mathlib.Algebra.Group.Nat.Defs

/-!
# Stored dates

Every date that is read from a stored document has a stored text, and reading that text gives the date
back.
-/
set_option autoImplicit false

namespace FieldRules

namespace Text

variable {s rest : List Char}

theorem trimStart_cons {c : Char} (hBlank : isBlank c = false) : trimStart (c :: s) = c :: s := by
  simp [trimStart, hBlank]

theorem trimStart_digits (hDigits : ∀ c ∈ s, c.isDigit = true) (hNonempty : s ≠ []) :
    trimStart (s ++ rest) = s ++ rest := by
  cases s with
  | nil => exact absurd rfl hNonempty
  | cons c s => exact trimStart_cons (isBlank_eq_false_of_isDigit (hDigits c List.mem_cons_self))

end Text

namespace Instant

theorem isDigit_of_mem_padded {width n : Nat} {c : Char} (h : c ∈ padded width n) : c.isDigit = true := by
  obtain h | h := List.mem_append.mp h
  · rw [List.eq_of_mem_replicate h]
    rfl
  · exact Nat.isDigit_of_mem_toDigits (by decide) (by decide) h

theorem padded_ne_nil (width n : Nat) : padded width n ≠ [] := by
  simp [padded, Nat.toDigits_ne_nil]

theorem length_padded {width n : Nat} (hWidth : 0 < width) (hLt : n < 10 ^ width) :
    (padded width n).length = width := by
  have hLe := (Nat.length_toDigits_le_iff (by decide) hWidth).mpr hLt
  simp only [padded, List.length_append, List.length_replicate]
  omega

theorem value_padded (width n : Nat) : Numeral.value (padded width n) = n := by
  rw [padded, Numeral.value, Numeral.valueFrom_append, Numeral.valueFrom_replicate_zero, Nat.zero_mul]
  exact Numeral.value_toDigits n

end Instant

namespace Clock

open Instant

variable {s rest : List Char}

/-- Digits are read to the last one, when no more of them may stand there or none do. -/
theorem upToDigits?_append {n : Nat} (hDigits : ∀ c ∈ s, c.isDigit = true) (hNonempty : s ≠ [])
    (hLength : s.length ≤ n) (hEnd : s.length = n ∨ ∀ c ∈ rest.head?, c.isDigit = false) :
    upToDigits? n (s ++ rest) = some (Numeral.value s, rest) := by
  have hFront : ((s ++ rest).take n).takeWhile Char.isDigit = s := by
    rw [List.take_append, List.take_of_length_le hLength]
    refine Numeral.takeWhile_digits hDigits fun c hc => ?_
    obtain hFull | hRest := hEnd
    · simp [hFull] at hc
    · refine hRest c ?_
      cases hTake : n - s.length with
      | zero => simp [hTake] at hc
      | succ k => cases rest <;> simp_all
  simp [upToDigits?, hFront, hNonempty]

theorem upToDigits?_padded {width n : Nat} (hWidth : 0 < width) (hLt : n < 10 ^ width) :
    upToDigits? width (padded width n ++ rest) = some (n, rest) := by
  have hLength := length_padded hWidth hLt
  rw [upToDigits?_append (fun _ => isDigit_of_mem_padded) (padded_ne_nil _ _) (Nat.le_of_eq hLength)
    (.inl hLength), value_padded]

theorem fraction?_padded {width n : Nat} (hWidth : 0 < width) (hNine : width ≤ 9) (hLt : n < 10 ^ width)
    (hRest : ∀ c ∈ rest.head?, c.isDigit = false) :
    fraction? ('.' :: (padded width n ++ rest)) = some (n * 10 ^ (9 - width), rest) := by
  have hLength := length_padded hWidth hLt
  have hTake : (padded width n).take 9 = padded width n := List.take_of_length_le (by omega)
  have hValue : Numeral.value (padded width n ++ List.replicate (9 - width) '0') = n * 10 ^ (9 - width) := by
    rw [Numeral.value, Numeral.valueFrom_append, Numeral.valueFrom_replicate_zero]
    exact congrArg (· * _) (value_padded width n)
  simp [fraction?, Numeral.takeWhile_digits (fun _ => isDigit_of_mem_padded) hRest,
    Numeral.dropWhile_digits (fun _ => isDigit_of_mem_padded) hRest, hTake, hLength, hValue, padded_ne_nil]

theorem fraction?_fractionText {nanos : Nat} (hLt : nanos < 1000000000)
    (hEnd : ∀ c ∈ rest.head?, c.isDigit = false ∧ c ≠ '.') :
    fraction? (fractionText nanos ++ rest) = some (nanos, rest) := by
  have hRest : ∀ c ∈ rest.head?, c.isDigit = false := fun c hc => (hEnd c hc).1
  unfold fractionText
  split
  · next h =>
    rw [List.nil_append, h]
    unfold fraction?
    split
    · exact absurd rfl (hEnd '.' rfl).2
    · rfl
  split
  · rw [List.cons_append, fraction?_padded (by decide) (by decide) (by omega) hRest]
    congr 2
    omega
  split
  · rw [List.cons_append, fraction?_padded (by decide) (by decide) (by omega) hRest]
    congr 2
    omega
  · rw [List.cons_append, fraction?_padded (by decide) (by decide) (by omega) hRest]
    simp

end Clock

namespace Instant

open Clock

variable {rest : List Char}

/-- The instants that have a stored text: the year is one that stored dates may have, and a leap second
ends a minute. -/
structure IsStorable (t : Instant) : Prop where
  year : storedYears (CivilDate.ofDayNumber (t.seconds / 86400)).year = true
  leap : 1000000000 ≤ t.nanos → t.seconds % 60 = 59

theorem looseNumber?_padded {n : Nat} (hLt : n < 100) : looseNumber? (padded 2 n ++ rest) = some (n, rest) := by
  rw [looseNumber?, Text.trimStart_digits (fun _ => isDigit_of_mem_padded) (padded_ne_nil _ _),
    upToDigits?_padded (by decide) hLt]

theorem looseYear?_cons {c : Char} {s : List Char} (hDigit : c.isDigit = true) :
    looseYear? (c :: s) = (upToDigits? 4 (c :: s)).map fun (n, rest) => ((n : Int), rest) := by
  unfold looseYear?
  split
  · next h =>
    obtain rfl := (List.cons.inj h).1
    cases hDigit
  · next h =>
    obtain rfl := (List.cons.inj h).1
    cases hDigit
  · rfl

theorem looseYear?_padded {n : Nat} (hLt : n < 10000) :
    looseYear? (padded 4 n ++ rest) = some ((n : Int), rest) := by
  have hRead : upToDigits? 4 (padded 4 n ++ rest) = some (n, rest) := upToDigits?_padded (by decide) hLt
  cases hPadded : padded 4 n with
  | nil => exact absurd hPadded (padded_ne_nil 4 n)
  | cons c s =>
    have hDigit : c.isDigit = true := by
      have hMem : c ∈ padded 4 n := by simp [hPadded]
      exact isDigit_of_mem_padded hMem
    rw [hPadded, List.cons_append] at hRead
    rw [List.cons_append, looseYear?_cons hDigit, hRead]
    rfl

theorem looseYear?_yearText (year : Int) :
    looseYear? (Text.trimStart (yearText year ++ '-' :: rest)) = some (year, '-' :: rest) := by
  have hAll (n : Nat) : upToDigits? (padded 4 n ++ '-' :: rest).length (padded 4 n ++ '-' :: rest) =
      some (n, '-' :: rest) := by
    rw [upToDigits?_append (fun _ => isDigit_of_mem_padded) (padded_ne_nil _ _) (by simp) (.inr (by simp)),
      value_padded]
  unfold yearText
  split
  · next h =>
    rw [Text.trimStart_digits (fun _ => isDigit_of_mem_padded) (padded_ne_nil _ _),
      looseYear?_padded (by omega), Int.toNat_of_nonneg h.1]
  split
  · rw [List.cons_append, Text.trimStart_cons (by decide), looseYear?, hAll]
    have hMinus : -(year.natAbs : Int) = year := by omega
    simp only [Option.map_some, hMinus]
  · rw [List.cons_append, Text.trimStart_cons (by decide), looseYear?, hAll]
    have hPlus : (year.natAbs : Int) = year := by omega
    simp only [Option.map_some, hPlus]

theorem looseChar?_cons {c : Char} (hBlank : Text.isBlank c = false) :
    looseChar? c (c :: rest) = some rest := by
  simp [looseChar?, Text.trimStart_cons hBlank, char?]

theorem looseDate?_append {d : CivilDate} (hYear : storedYears d.year = true) (hMonth : d.month < 100)
    (hDay : d.day < 100) :
    looseDate? (yearText d.year ++ '-' :: (padded 2 d.month ++ '-' :: (padded 2 d.day ++ rest))) =
      some (d, rest) := by
  simp [looseDate?, looseYear?_yearText, looseChar?_cons (by decide : Text.isBlank '-' = false),
    looseNumber?_padded, hMonth, hDay, hYear]

theorem looseTime?_append {hour minute second nanos : Nat} (hHour : hour < 100) (hMinute : minute < 100)
    (hSecond : second < 100) (hNanos : nanos < 1000000000) (hEnd : ∀ c ∈ rest.head?, c.isDigit = false ∧ c ≠ '.') :
    looseTime? (padded 2 hour ++ ':' :: (padded 2 minute ++ ':' :: (padded 2 second ++
      (fractionText nanos ++ rest)))) = (timeOfDay? hour minute second nanos).map fun time => (time, rest) := by
  simp [looseTime?, looseChar?_cons (by decide : Text.isBlank ':' = false), looseNumber?_padded, hHour, hMinute,
    hSecond, fraction?_fractionText hNanos hEnd]
  cases timeOfDay? hour minute second nanos <;> rfl

theorem monthLength_le (year : Int) (month : Nat) : CivilDate.monthLength year month ≤ 31 := by
  unfold CivilDate.monthLength
  split <;> split <;> simp

theorem lt_hundred_of_isValid {d : CivilDate} (hValid : d.isValid = true) : d.month < 100 ∧ d.day < 100 := by
  have hLength := monthLength_le d.year d.month
  simp only [CivilDate.isValid, Bool.and_eq_true, decide_eq_true_eq] at hValid
  omega

/-- The time of day of an instant, split into its parts, is read as that time, if a leap second ends its minute. -/
theorem timeOfDay?_parts {t : Instant} (hLeapEnds : 1000000000 ≤ t.nanos → t.seconds % 60 = 59) {second : Nat}
    (hSecond : (second : Int) = t.seconds % 86400) :
    Clock.timeOfDay? (second / 3600) (second / 60 % 60) (second % 60 + t.nanos / 1000000000)
      (t.nanos % 1000000000) = some (second, t.nanos) := by
  have hNanos := t.nanos_lt
  have hHour : second / 3600 < 24 := by omega
  have hMinute : second / 60 % 60 < 60 := by omega
  by_cases hLeap : 1000000000 ≤ t.nanos
  · have hLast : second % 60 + t.nanos / 1000000000 = 60 := by
      have := hLeapEnds hLeap
      omega
    have hWhole : second / 3600 * 3600 + second / 60 % 60 * 60 + 59 = second := by omega
    have hFraction : t.nanos % 1000000000 + 1000000000 = t.nanos := by omega
    simp [Clock.timeOfDay?, hHour, hMinute, hLast, hWhole, hFraction]
  · have hLeap : t.nanos / 1000000000 = 0 := by omega
    have hBelow : second % 60 ≠ 60 := by omega
    have hLe : second % 60 ≤ 60 := by omega
    have hWhole : second / 3600 * 3600 + second / 60 % 60 * 60 + second % 60 = second := by omega
    have hFraction : t.nanos % 1000000000 = t.nanos := by omega
    simp [Clock.timeOfDay?, hHour, hMinute, hLeap, hBelow, hLe, hWhole, hFraction]

theorem ofParts?_ofDayNumber {t : Instant} {second : Nat} (hSecond : (second : Int) = t.seconds % 86400) :
    ofParts? (CivilDate.ofDayNumber (t.seconds / 86400)) (second, t.nanos) 0 = some t := by
  have hWhole : t.seconds / 86400 * 86400 + second = t.seconds := by omega
  simp [ofParts?, t.nanos_lt, CivilDate.isValid_ofDayNumber, hWhole]

theorem looseOffset?_universal : looseOffset? ['Z'] = some (0, []) := by
  decide

theorem readStored?_stored {t : Instant} (h : t.IsStorable) : readStored? t.stored = some t := by
  -- date, clock and offset are read one after the other, each leaving the text of the next
  obtain ⟨second, hSecond⟩ : ∃ second : Nat, second = (t.seconds % 86400).toNat := ⟨_, rfl⟩
  have hSecond' : (second : Int) = t.seconds % 86400 := by omega
  have hNanos := t.nanos_lt
  obtain ⟨hMonth, hDay⟩ := lt_hundred_of_isValid (CivilDate.isValid_ofDayNumber (t.seconds / 86400))
  have hText : t.stored.toList = _ := String.toList_ofList
  simp only [clockText, ← hSecond, List.append_assoc, List.cons_append] at hText
  have hTime : looseTime? (padded 2 (second / 3600) ++ ':' :: (padded 2 (second / 60 % 60) ++
      ':' :: (padded 2 (second % 60 + t.nanos / 1000000000) ++
        (fractionText (t.nanos % 1000000000) ++ ['Z'])))) = some ((second, t.nanos), ['Z']) := by
    rw [looseTime?_append (by omega) (by omega) (by omega) (by omega) (by simp), timeOfDay?_parts h.leap hSecond',
      Option.map_some]
  have hParts := ofParts?_ofDayNumber hSecond'
  have hEnd : Text.trimStart [] = [] := rfl
  simp [readStored?, hText, looseDate?_append h.year hMonth hDay, separator?, hTime, looseOffset?_universal,
    Text.trimStart_cons (by decide : Text.isBlank 'Z' = false), hParts, h.year, hEnd]

theorem fraction?_lt {s rest : List Char} {nanos : Nat} (h : fraction? s = some (nanos, rest)) :
    nanos < 1000000000 := by
  unfold fraction? at h
  split at h
  · next digits =>
    dsimp only at h
    split at h
    · cases h
    · obtain rfl := (Prod.mk.inj (Option.some.inj h)).1
      have hDigits : ∀ c ∈ ((digits.takeWhile Char.isDigit).take 9).rightpad 9 '0', c.isDigit = true := by
        intro c hc
        obtain hc | hc := List.mem_append.mp hc
        · exact List.all_eq_true.mp List.all_takeWhile c (List.mem_of_mem_take hc)
        · rw [List.eq_of_mem_replicate hc]
          rfl
      have hLength : (((digits.takeWhile Char.isDigit).take 9).rightpad 9 '0').length = 9 := by
        simp only [List.rightpad, List.length_append, List.length_replicate]
        have := List.length_take_le 9 (digits.takeWhile Char.isDigit)
        omega
      have hLt := Numeral.value_lt hDigits
      rwa [hLength] at hLt
  · obtain rfl := (Prod.mk.inj (Option.some.inj h)).1
    decide

theorem timeOfDay?_leap {hour minute second nanos : Nat} {time : Nat × Nat} (hNanos : nanos < 1000000000)
    (h : Clock.timeOfDay? hour minute second nanos = some time) : 1000000000 ≤ time.2 → time.1 % 60 = 59 := by
  unfold Clock.timeOfDay? at h
  split at h
  · split at h
    · obtain rfl := Option.some.inj h
      intro
      change (hour * 3600 + minute * 60 + 59) % 60 = 59
      omega
    · obtain rfl := Option.some.inj h
      intro hLeap
      exact absurd hNanos (Nat.not_lt.mpr hLeap)
  · cases h

theorem looseTime?_leap {s rest : List Char} {time : Nat × Nat} (h : looseTime? s = some (time, rest)) :
    1000000000 ≤ time.2 → time.1 % 60 = 59 := by
  simp only [looseTime?, Option.bind_eq_bind, Option.bind_eq_some_iff, Option.some.injEq, Prod.mk.injEq] at h
  obtain ⟨_, -, _, -, _, -, _, -, _, -, ⟨nanos, _⟩, hNanos, time, hTime, rfl, -⟩ := h
  exact timeOfDay?_leap (fraction?_lt hNanos) hTime

theorem offset?_minutes {colon : List Char → Option (List Char)} {s rest : List Char} {offset : Int}
    (h : offset? colon s = some (offset, rest)) : offset % 60 = 0 := by
  unfold offset? at h
  split at h
  · obtain rfl := (Prod.mk.inj (Option.some.inj h)).1
    rfl
  · obtain rfl := (Prod.mk.inj (Option.some.inj h)).1
    rfl
  · simp only [Option.bind_eq_bind, Option.bind_eq_some_iff] at h
    obtain ⟨⟨sign, _⟩, -, ⟨hours, _⟩, -, _, -, ⟨minutes, _⟩, -, h⟩ := h
    split at h
    · obtain rfl := (Prod.mk.inj (Option.some.inj h)).1
      have hWhole : ((hours * 3600 + minutes * 60 : Nat) : Int) = 60 * (hours * 60 + minutes) := by omega
      rw [hWhole, Int.mul_left_comm]
      exact Int.mul_emod_right ..
    · cases h

theorem looseOffset?_minutes {s rest : List Char} {offset : Int} (h : looseOffset? s = some (offset, rest)) :
    offset % 60 = 0 := by
  unfold looseOffset? at h
  split at h
  · obtain rfl := (Prod.mk.inj (Option.some.inj h)).1
    rfl
  · exact offset?_minutes h

theorem ofParts?_leap {date : CivilDate} {time : Nat × Nat} {offset : Int} {t : Instant}
    (hLeap : 1000000000 ≤ time.2 → time.1 % 60 = 59) (hOffset : offset % 60 = 0)
    (h : ofParts? date time offset = some t) : 1000000000 ≤ t.nanos → t.seconds % 60 = 59 := by
  unfold ofParts? at h
  split at h
  · split at h
    · obtain rfl := Option.some.inj h
      intro hNanos
      have := hLeap hNanos
      change (date.dayNumber * 86400 + time.1 - offset) % 60 = 59
      omega
    · cases h
  · cases h

theorem isStorable_of_readStored? {text : String} {t : Instant} (h : readStored? text = some t) :
    t.IsStorable := by
  simp only [readStored?, Option.bind_eq_bind, Option.bind_eq_some_iff] at h
  obtain ⟨⟨date, _⟩, -, _, -, ⟨time, _⟩, hTime, ⟨offset, _⟩, hOffset, t', hParts, h⟩ := h
  split at h
  · next hYear =>
    obtain rfl := Option.some.inj h
    exact ⟨(Bool.and_eq_true_iff.mp hYear).2,
      ofParts?_leap (looseTime?_leap hTime) (looseOffset?_minutes hOffset) hParts⟩
  · cases h

end Instant
end FieldRules
