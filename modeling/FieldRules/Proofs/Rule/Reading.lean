import FieldRules.Proofs.Rule.Views

/-!
# Rules on types that only have a dynamic value

A type of the user's own need not answer any view. Its fields are then never null themselves, so a rule that
looks for null tells such a field from its value when that value is null. On all other values, and under all
other rules, the two read alike.
-/
set_option autoImplicit false

namespace FieldRules

/-- The views of a type that only says what its dynamic values are. -/
abbrev FieldValue.ofReading {α : Type} (reading : α → Value) : FieldValue α :=
  { toValue := reading }

/-- A field that is present and spells nothing at all. -/
structure Mute {α : Type} [FieldValue α] (a : α) : Prop where
  isNull_eq : FieldValue.isNull a = false
  display?_eq : FieldValue.display? a = none
  textView_eq : Verdict.textView a = none
  numberView_eq : Verdict.numberView a = none
  instantView_eq : Verdict.instantView a = none

namespace Mute

variable {α : Type} [FieldValue α] {a : α} (h : Mute a)

include h

theorem required_eq : Verdict.required a = true := by
  rw [Verdict.required, h.isNull_eq, h.textView_eq]
  rfl

theorem length_eq (min max : UInt64) : Verdict.length min max a = true := by
  rw [Verdict.length, h.isNull_eq, h.textView_eq]
  rfl

theorem range_eq (min max : Double) : Verdict.range min max a = true := by
  rw [Verdict.range, h.isNull_eq, h.numberView_eq, h.textView_eq]
  rfl

theorem format_eq (test : List Char → Bool) : Verdict.format test a = true := by
  have hText : FieldValue.text? a = none := (Option.or_eq_none_iff.mp h.textView_eq).1
  have hAbsent : Verdict.presentText a = none := by
    rw [Verdict.presentText, h.isNull_eq, hText, h.display?_eq]
    rfl
  rw [Verdict.format, hAbsent]

theorem futureDate_eq (now : Instant) : Verdict.futureDate now a = false := by
  rw [Verdict.futureDate, h.isNull_eq, h.instantView_eq, h.textView_eq]
  rfl

theorem allowedValues_eq (values : List String) : Verdict.allowedValues values a = true := by
  rw [Verdict.allowedValues, h.isNull_eq, h.display?_eq]
  rfl

end Mute

/-- Whether the verdict on null differs from the one on a field that is present and spells nothing. A sibling
that does not put a conditional rule in force hides the difference. -/
def Rule.noticesNull (sibling : Value) : Rule → Bool
  | required | futureDate => true
  | requiredIf _ target => sibling.looseEq target
  | _ => false

/-- What asks for presence is content with such a field, and what asks for a date is not; of null, the opposite
holds. -/
theorem Rule.holds_eq_passes_null_iff {α β : Type} [FieldValue α] [FieldValue β] {a : α} (h : Mute a)
    (sibling : β) (now : Instant) (r : Rule) :
    r.holds now sibling a = r.passes now (some (FieldValue.toValue sibling)) .null ↔
      r.noticesNull (FieldValue.toValue sibling) = false := by
  cases r with
  | required =>
    change Verdict.required a = false ↔ true = false
    rw [h.required_eq]
  | length min max => exact iff_of_true (h.length_eq min max) rfl
  | range min max => exact iff_of_true (h.range_eq min max) rfl
  | email | url | creditCard | phone | fileExtension => exact iff_of_true (h.format_eq _) rfl
  | futureDate =>
    change Verdict.futureDate now a = true ↔ true = false
    rw [h.futureDate_eq]
    exact eq_comm
  | allowedValues values => exact iff_of_true (h.allowedValues_eq values) rfl
  | requiredIf other target =>
    change (!Verdict.conditionMet target sibling || Verdict.required a) =
      (!Verdict.conditionMet target sibling || false) ↔ Verdict.conditionMet target sibling = false
    rw [h.required_eq]
    cases Verdict.conditionMet target sibling <;> decide
  | conditionalRange other target min max =>
    change (!Verdict.conditionMet target sibling || Verdict.range min max a) =
      (!Verdict.conditionMet target sibling || true) ↔ false = false
    rw [h.range_eq]
    exact iff_of_true rfl rfl

section Reading

variable {α β : Type} [FieldValue β] (reading : α → Value) (a : α)

theorem FieldValue.mute_ofReading (h : reading a = .null) :
    let := FieldValue.ofReading reading
    Mute a := by
  let := FieldValue.ofReading reading
  have hValue : FieldValue.toValue a = .null := h
  refine ⟨rfl, congrArg Value.display? h, congrArg Value.text? h, congrArg Value.number? h, ?_⟩
  rw [Verdict.instantView, hValue]
  rfl

theorem FieldValue.viewsAgree_ofReading (h : reading a ≠ .null) :
    let := FieldValue.ofReading reading
    ViewsAgree a := by
  let := FieldValue.ofReading reading
  have hPresent : (reading a).isNull = false := by
    cases hValue : reading a with
    | null => exact absurd hValue h
    | _ => rfl
  exact ⟨hPresent.symm, rfl, .silent _, .silent _, .silent _⟩

/-- A rule says the same of a field as of its value, except that a null value is taken for a present one where
the rule notices the difference. -/
theorem Rule.holds_ofReading_eq_passes_iff (sibling : β) (now : Instant) (r : Rule) :
    let := FieldValue.ofReading reading
    r.holds now sibling a = r.passes now (some (FieldValue.toValue sibling)) (reading a) ↔
      (reading a = .null → r.noticesNull (FieldValue.toValue sibling) = false) := by
  let := FieldValue.ofReading reading
  by_cases hNull : reading a = .null
  · have hIff := Rule.holds_eq_passes_null_iff (FieldValue.mute_ofReading reading a hNull) sibling now r
    rw [hNull]
    exact hIff.trans ⟨fun hUnnoticed _ => hUnnoticed, fun hUnnoticed => hUnnoticed rfl⟩
  · have hAgree := FieldValue.viewsAgree_ofReading reading a hNull
    exact iff_of_true (Rule.holds_eq_of_viewsAgree hAgree now sibling r) fun h => absurd h hNull

end Reading

/-- A null of a type of the user's own counts as filled in and as no date, its value as missing. -/
theorem Rule.holds_ne_passes_custom_null :
    (Rule.required.holds .epoch Value.null (Custom.mk .null) = true ∧
      Rule.required.passes .epoch (some .null) (FieldValue.toValue (Custom.mk .null)) = false) ∧
    (Rule.futureDate.holds .epoch Value.null (Custom.mk .null) = false ∧
      Rule.futureDate.passes .epoch (some .null) (FieldValue.toValue (Custom.mk .null)) = true) := by
  decide

end FieldRules
