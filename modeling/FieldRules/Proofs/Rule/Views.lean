import FieldRules.Proofs.Value.Views
import FieldRules.Rule.Verdict

/-!
# Rules on typed fields and on their values

Every rule says the same of a field whose views agree with its dynamic value as it says of that value. The
fields of all types built from the library's own are such fields.
-/
set_option autoImplicit false

namespace FieldRules

namespace Value

theorem text?_echoes_display? (v : Value) : Echoes v.text? v.display? := by
  intro s h
  cases v with
  | text t => exact h
  | _ => cases h

end Value

namespace Verdict

variable {α : Type} [FieldValue α] {a : α}

theorem textView_eq (h : ViewsAgree a) : textView a = textView (FieldValue.toValue a) := by
  have hDynamic : textView (FieldValue.toValue a) = (FieldValue.toValue a).text? := Option.or_self
  rw [hDynamic]
  exact h.text?.or_eq

theorem numberView_eq (h : ViewsAgree a) : numberView a = numberView (FieldValue.toValue a) := by
  have hDynamic : numberView (FieldValue.toValue a) = (FieldValue.toValue a).number? := Option.or_self
  rw [hDynamic]
  exact h.number?.or_eq

/-- Whatever a format rule looks at is what the value is displayed as. -/
theorem text?_or_display? (h : ViewsAgree a) :
    (FieldValue.text? a).or (FieldValue.display? a) = (FieldValue.toValue a).display? := by
  rw [h.display?_eq]
  have hEchoes : Echoes (FieldValue.text? a) (FieldValue.toValue a).display? :=
    fun s hs => Value.text?_echoes_display? _ s (h.text? s hs)
  exact hEchoes.or_eq

theorem presentText_eq (h : ViewsAgree a) : presentText a = presentText (FieldValue.toValue a) := by
  have hDynamic := text?_or_display? (Value.viewsAgree (FieldValue.toValue a))
  rw [presentText, presentText, text?_or_display? h, hDynamic, h.isNull_eq]
  rfl

theorem required_eq (h : ViewsAgree a) : required a = required (FieldValue.toValue a) := by
  rw [required, required, h.isNull_eq, textView_eq h]
  rfl

theorem length_eq (h : ViewsAgree a) (min max : UInt64) :
    length min max a = length min max (FieldValue.toValue a) := by
  rw [length, length, h.isNull_eq, textView_eq h]
  rfl

theorem range_eq (h : ViewsAgree a) (min max : Double) :
    range min max a = range min max (FieldValue.toValue a) := by
  rw [range, range, h.isNull_eq, numberView_eq h, textView_eq h]
  rfl

theorem format_eq (h : ViewsAgree a) (test : List Char → Bool) :
    format test a = format test (FieldValue.toValue a) := by
  rw [format, format, presentText_eq h]

theorem allowedValues_eq (h : ViewsAgree a) (values : List String) :
    allowedValues values a = allowedValues values (FieldValue.toValue a) := by
  rw [allowedValues, allowedValues, h.isNull_eq, h.display?_eq]
  rfl

/-- A date that a field spells as text may be read by its own view or by the rule; the instant is the same. -/
theorem futureDate_eq_any (h : ViewsAgree a) (now : Instant) :
    futureDate now a =
      ((FieldValue.toValue a).isNull || (FieldValue.toValue a).instant?.any now.isBefore) := by
  have hText : textView a = (FieldValue.toValue a).text? := h.text?.or_eq
  rw [futureDate, h.isNull_eq, hText, instantView]
  congr 1
  cases hOwn : FieldValue.instant? a with
  | some t => rw [h.instant? t hOwn]; rfl
  | none => cases FieldValue.toValue a <;> rfl

theorem futureDate_eq (h : ViewsAgree a) (now : Instant) :
    futureDate now a = futureDate now (FieldValue.toValue a) := by
  rw [futureDate_eq_any h, futureDate_eq_any (Value.viewsAgree (FieldValue.toValue a))]
  rfl

end Verdict

/-- The verdict on a field with the views of its value is the verdict on that value; of the sibling only the
value counts. -/
theorem Rule.holds_eq_of_viewsAgree {α β : Type} [FieldValue α] [FieldValue β] {a : α} (h : ViewsAgree a)
    (now : Instant) (sibling : β) (r : Rule) :
    r.holds now sibling a = r.passes now (some (FieldValue.toValue sibling)) (FieldValue.toValue a) := by
  have hSibling (target : Value) : Verdict.conditionMet target sibling =
      Verdict.conditionMet target (FieldValue.toValue sibling) := rfl
  cases r with
  | required => exact Verdict.required_eq h
  | length min max => exact Verdict.length_eq h min max
  | range min max => exact Verdict.range_eq h min max
  | email | url | creditCard | phone | fileExtension => exact Verdict.format_eq h _
  | futureDate => exact Verdict.futureDate_eq h now
  | allowedValues values => exact Verdict.allowedValues_eq h values
  | requiredIf other target =>
    change (!_ || _) = (!_ || _)
    rw [hSibling, Verdict.required_eq h]
    rfl
  | conditionalRange other target min max =>
    change (!_ || _) = (!_ || _)
    rw [hSibling, Verdict.range_eq h]
    rfl

/-- On every type built from the library's own, a rule says of a field what it says of its dynamic value. -/
theorem Shape.holds_eq_passes (s t : Shape) (hBuiltIn : s.isBuiltIn = true) (x : s.Carrier) (y : t.Carrier)
    (now : Instant) (r : Rule) :
    r.holds now y x = r.passes now (some (FieldValue.toValue y)) (FieldValue.toValue x) :=
  Rule.holds_eq_of_viewsAgree (s.viewsAgree hBuiltIn x) now y r

/-- A boxed integer that no 64 bits hold, checked because of a text. -/
theorem Shape.holds_eq_passes_wide :
    (Shape.option (.boxed (.int (.unsigned 128)))).isBuiltIn = true ∧
    (Rule.conditionalRange "role" (.text "root") (.ofInt 1) (.ofInt 3)).holds .epoch
        (show Shape.text.Carrier from "root")
        (show (Shape.option (.boxed (.int (.unsigned 128)))).Carrier from
          some ⟨⟨(IntKind.unsigned 128).greatest, by decide⟩⟩) =
      (Rule.conditionalRange "role" (.text "root") (.ofInt 1) (.ofInt 3)).passes .epoch
        (some (.text "root")) (Value.ofInt (IntKind.unsigned 128).greatest) :=
  ⟨by rfl, Shape.holds_eq_passes (.option (.boxed (.int (.unsigned 128)))) .text (by rfl)
    (some ⟨⟨(IntKind.unsigned 128).greatest, by decide⟩⟩) "root" .epoch _⟩

end FieldRules
