import FieldRules.Proofs.Calendar.Stored

/-!
# Displayed dates

The text that an instant is displayed as is read back as that instant where its year has four digits. With any other
year it is no date.
-/
set_option autoImplicit false

namespace FieldRules

namespace Clock

open Instant

variable {rest : List Char}

theorem digits?_padded {width n : Nat} (hWidth : 0 < width) (hLt : n < 10 ^ width) :
    digits? width (padded width n ++ rest) = some (n, rest) := by
  have hLength := length_padded hWidth hLt
  have hFront : (padded width n ++ rest).take width = padded width n := List.take_left' hLength
  have hRest : (padded width n ++ rest).drop width = rest := List.drop_left' hLength
  have hDigits : (padded width n).all Char.isDigit = true := List.all_eq_true.mpr fun _ => isDigit_of_mem_padded
  simp [digits?, hFront, hRest, hLength, hDigits, value_padded]

theorem digits?_cons_eq_none {c : Char} (hDigit : c.isDigit = false) {n : Nat} (hPos : 0 < n) :
    digits? n (c :: rest) = none := by
  obtain ⟨n, rfl⟩ := Nat.exists_eq_succ_of_ne_zero (Nat.ne_of_gt hPos)
  simp [digits?, hDigit]

theorem char?_cons (c : Char) : char? c (c :: rest) = some rest :=
  if_pos rfl

end Clock

namespace Instant

open Clock

variable {t : Instant} {rest : List Char}

def year (t : Instant) : Int :=
  (CivilDate.ofDayNumber (t.seconds / 86400)).year

/-- The second of a leap second is the last one of its minute. -/
def LeapEndsMinute (t : Instant) : Prop :=
  1000000000 ≤ t.nanos → t.seconds % 60 = 59

theorem date?_append {d : CivilDate} (hYear : 0 ≤ d.year ∧ d.year ≤ 9999) (hMonth : d.month < 100)
    (hDay : d.day < 100) :
    date? (yearText d.year ++ '-' :: (padded 2 d.month ++ '-' :: (padded 2 d.day ++ rest))) = some (d, rest) := by
  have hRead {rest : List Char} : digits? 4 (padded 4 d.year.toNat ++ rest) = some (d.year.toNat, rest) :=
    digits?_padded (by decide) (by omega)
  have hKept : (d.year.toNat : Int) = d.year := Int.toNat_of_nonneg hYear.1
  simp [date?, yearText, hYear, hRead, digits?_padded, char?_cons, hMonth, hDay, hKept, -Int.ofNat_toNat]

theorem date?_eq_none {year : Int} (hYear : ¬(0 ≤ year ∧ year ≤ 9999)) : date? (yearText year ++ rest) = none := by
  have hSign : (if year < 0 then '-' else '+').isDigit = false := by split <;> rfl
  rw [yearText, if_neg hYear, List.cons_append, date?, digits?_cons_eq_none hSign (by decide)]
  rfl

theorem time?_append {hour minute second nanos : Nat} (hHour : hour < 100) (hMinute : minute < 100)
    (hSecond : second < 100) (hNanos : nanos < 1000000000) (hEnd : ∀ c ∈ rest.head?, c.isDigit = false ∧ c ≠ '.') :
    time? (padded 2 hour ++ ':' :: (padded 2 minute ++ ':' :: (padded 2 second ++ (fractionText nanos ++ rest)))) =
      (timeOfDay? hour minute second nanos).map fun time => (time, rest) := by
  simp [time?, digits?_padded, char?_cons, hHour, hMinute, hSecond, fraction?_fractionText hNanos hEnd]
  cases timeOfDay? hour minute second nanos <;> rfl

theorem offset?_universal : offset? (char? ':') ['+', '0', '0', ':', '0', '0'] = some (0, []) := by
  decide

theorem readExact?_display (hLeap : t.LeapEndsMinute) (hYear : 0 ≤ t.year ∧ t.year ≤ 9999) :
    readExact? t.display.toList = some t := by
  obtain ⟨second, hSecond⟩ : ∃ second : Nat, second = (t.seconds % 86400).toNat := ⟨_, rfl⟩
  have hSecond' : (second : Int) = t.seconds % 86400 := by omega
  have hNanos := t.nanos_lt
  obtain ⟨hMonth, hDay⟩ := lt_hundred_of_isValid (CivilDate.isValid_ofDayNumber (t.seconds / 86400))
  have hText : t.display.toList = _ := String.toList_ofList
  simp only [clockText, ← hSecond, List.append_assoc, List.cons_append] at hText
  have hTime : time? (padded 2 (second / 3600) ++ ':' :: (padded 2 (second / 60 % 60) ++
      ':' :: (padded 2 (second % 60 + t.nanos / 1000000000) ++
        (fractionText (t.nanos % 1000000000) ++ ['+', '0', '0', ':', '0', '0'])))) =
      some ((second, t.nanos), ['+', '0', '0', ':', '0', '0']) := by
    rw [time?_append (by omega) (by omega) (by omega) (by omega) (by simp), timeOfDay?_parts hLeap hSecond',
      Option.map_some]
  simp [readExact?, hText, date?_append hYear hMonth hDay, separator?, hTime, offset?_universal,
    ofParts?_ofDayNumber hSecond']

theorem readExact?_display_eq_none (hYear : ¬(0 ≤ t.year ∧ t.year ≤ 9999)) : readExact? t.display.toList = none := by
  have hText : t.display.toList = _ := String.toList_ofList
  simp only [clockText, List.append_assoc] at hText
  change t.display.toList = yearText t.year ++ _ at hText
  rw [hText, readExact?, date?_eq_none hYear]
  rfl

theorem exists_yearText (year : Int) : ∃ c rest, yearText year = c :: rest ∧ Text.isBlank c = false := by
  unfold yearText
  split
  · obtain ⟨c, rest, hCons⟩ := List.exists_cons_of_ne_nil (padded_ne_nil 4 year.toNat)
    have hMem : c ∈ padded 4 year.toNat := hCons ▸ List.mem_cons_self
    exact ⟨c, rest, hCons, Text.isBlank_eq_false_of_isDigit (isDigit_of_mem_padded hMem)⟩
  · exact ⟨_, _, rfl, by split <;> rfl⟩

theorem isTrimmed_display (t : Instant) : Text.IsTrimmed t.display.toList := by
  have hText : t.display.toList = _ := String.toList_ofList
  obtain ⟨c, rest, hYear, hBlank⟩ := exists_yearText (CivilDate.ofDayNumber (t.seconds / 86400)).year
  constructor
  · simp only [hText, clockText, hYear, List.append_assoc, List.cons_append]
    exact Text.trimStart_cons hBlank
  · rw [hText, List.reverse_append]
    exact Text.trimStart_cons (by decide)

theorem read?_display (t : Instant) : read? t.display = readExact? t.display.toList := by
  rw [read?, (isTrimmed_display t).trimChars_eq]

theorem time?_leap {s : List Char} {time : Nat × Nat} (h : time? s = some (time, rest)) :
    1000000000 ≤ time.2 → time.1 % 60 = 59 := by
  simp only [time?, Option.bind_eq_bind, Option.bind_eq_some_iff, Option.some.injEq, Prod.mk.injEq] at h
  obtain ⟨_, -, _, -, _, -, _, -, _, -, ⟨nanos, _⟩, hNanos, time, hTime, rfl, -⟩ := h
  exact timeOfDay?_leap (fraction?_lt hNanos) hTime

theorem leapEndsMinute_of_readExact? {s : List Char} (h : readExact? s = some t) : t.LeapEndsMinute := by
  simp only [readExact?, Option.bind_eq_bind, Option.bind_eq_some_iff] at h
  obtain ⟨⟨date, _⟩, -, _, -, ⟨time, _⟩, hTime, ⟨offset, _⟩, hOffset, h⟩ := h
  split at h
  · exact ofParts?_leap (time?_leap hTime) (offset?_minutes hOffset) h
  · cases h

end Instant
end FieldRules
