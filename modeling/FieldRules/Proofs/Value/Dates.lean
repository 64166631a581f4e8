import FieldRules.Proofs.Calendar.Displayed
import FieldRules.Proofs.Derive.Construction

/-!
# Dates and their texts

A date that was read is displayed as a text that spells it, if its year in universal time has four digits. The offset
of the text it was read from can move the year to the one before or after those, and then the displayed text spells no
date.
-/
set_option autoImplicit false

namespace FieldRules.Value

open Source.Form

theorem instant?_display (t : Instant) : (text t.display).instant? = Instant.readExact? t.display.toList :=
  t.read?_display

/-- A date that was read, from a text of any offset or from a stored document, is displayed as a text. The text spells
the date, for the reader of values and for the code that builds a declared date anew, where the year has four digits.
With any other year it spells no date, and the code builds a text in its place. -/
theorem date_readBack {s : String} {t : Instant} (h : Instant.read? s = some t ∨ Instant.readStored? s = some t) :
    (date t).display? = some t.display ∧
    read? ofForm? (date t).code.trees = some (ofDateText t.display) ∧
    (0 ≤ t.year ∧ t.year ≤ 9999 → (text t.display).instant? = some t ∧ ofDateText t.display = date t) ∧
    (¬(0 ≤ t.year ∧ t.year ≤ 9999) → (text t.display).instant? = none ∧ ofDateText t.display = text t.display) := by
  have hLeap : t.LeapEndsMinute := by
    obtain h | h := h
    · exact Instant.leapEndsMinute_of_readExact? h
    · exact (Instant.isStorable_of_readStored? h).leap
  refine ⟨rfl, read?_code_date t, fun hYear => ?_, fun hYear => ?_⟩
  · have hRead := Instant.readExact?_display hLeap hYear
    exact ⟨(instant?_display t).trans hRead, by rw [ofDateText, hRead]⟩
  · have hRead := Instant.readExact?_display_eq_none hYear
    exact ⟨(instant?_display t).trans hRead, by rw [ofDateText, hRead]⟩

/-- A fraction of a leap second, seen from five hours west. -/
theorem date_readBack_leap :
    Instant.read? "2016-12-31T18:59:60.123456789-05:00" = some ⟨1483228799, 1123456789, by decide⟩ ∧
      (Instant.mk 1483228799 1123456789 (by decide)).year = 2016 ∧
      (text (Instant.mk 1483228799 1123456789 (by decide)).display).instant? =
        some ⟨1483228799, 1123456789, by decide⟩ ∧
      ofDateText (Instant.mk 1483228799 1123456789 (by decide)).display = date ⟨1483228799, 1123456789, by decide⟩ :=
  have hRead : Instant.read? "2016-12-31T18:59:60.123456789-05:00" = some ⟨1483228799, 1123456789, by decide⟩ := by
    decide +kernel
  ⟨hRead, by decide, (date_readBack (.inl hRead)).2.2.1 (by decide)⟩

/-- The first day of the year 0, seen from an hour east, began in the year before. -/
theorem date_readBack_year_before :
    Instant.read? "0000-01-01T00:00:00+01:00" = some ⟨-62167222800, 0, by decide⟩ ∧
      (date ⟨-62167222800, 0, by decide⟩).display? = some "-0001-12-31T23:00:00+00:00" ∧
      (text "-0001-12-31T23:00:00+00:00").instant? ≠ some ⟨-62167222800, 0, by decide⟩ ∧
      ofDateText "-0001-12-31T23:00:00+00:00" ≠ date ⟨-62167222800, 0, by decide⟩ := by
  decide +kernel

end FieldRules.Value
