import FieldRules.Proofs.Text.Case
import FieldRules.Rule.Verdict
import FieldRules.Value.Shape

/-!
# Sanitized values

A directive has nothing left to do on a text that it has sanitized, unless it spells a capital sharp s in upper and then
in lower case. It never makes a text blank that was not, nor the other way round, so that a value is as present as it
was before.
-/
set_option autoImplicit false

namespace FieldRules

namespace Directive

variable (d : Directive)

def recase (s : List Char) : List Char :=
  let s := if d.upper then Text.upperChars s else s
  if d.lower then Text.lowerChars s else s

theorem toList_clean (s : String) :
    (d.clean s).toList = d.recase (if d.trim then Text.trimChars s.toList else s.toList) := by
  obtain ⟨trim, upper, lower⟩ := d
  cases trim <;> cases upper <;> cases lower <;> simp [clean, recase, Text.trim, Text.upper, Text.lower]

theorem recase_keeps (P : List Char → Prop) (hRespells : ∀ s t, Text.Respells s t → P s → P t) {s : List Char}
    (hs : P s) : P (d.recase s) := by
  have hUpper : P (if d.upper then Text.upperChars s else s) := by
    split
    · exact hRespells _ _ (Text.respells_upperChars s) hs
    · exact hs
  rw [recase]
  generalize (if d.upper then Text.upperChars s else s) = t at hUpper
  change P (if d.lower then Text.lowerChars t else t)
  split
  · exact hRespells _ _ (Text.respells_lowerFrom [] t) hUpper
  · exact hUpper

theorem blank_clean (s : String) : Text.blank (d.clean s) = Text.blank s := by
  have hTrimmed : (if d.trim then Text.trimChars s.toList else s.toList).all Text.isBlank =
      s.toList.all Text.isBlank := by
    split
    · exact Text.all_isBlank_trimChars s.toList
    · rfl
  rw [Text.blank, toList_clean, Text.blank]
  refine d.recase_keeps (fun t => t.all Text.isBlank = s.toList.all Text.isBlank) (fun t u h ht => ?_) hTrimmed
  exact h.all_isBlank.trans ht

/-- A text that is trimmed and then changed in case is still trimmed. -/
theorem isTrimmed_clean (h : d.trim = true) (s : String) : Text.IsTrimmed (d.clean s).toList := by
  rw [toList_clean, if_pos h]
  exact d.recase_keeps Text.IsTrimmed (fun _ _ h ht => h.isTrimmed ht) (Text.isTrimmed_trimChars s.toList)

/-- Whether the directive spells a capital sharp s of the text: as a small one in lower case, which a second upper case
spells with two letters. -/
def RespellsSharp (s : String) : Prop :=
  d.upper = true ∧ d.lower = true ∧ '\u1E9E' ∈ s.toList

theorem recase_recase_iff (s : List Char) :
    d.recase (d.recase s) = d.recase s ↔ ¬(d.upper = true ∧ d.lower = true ∧ '\u1E9E' ∈ s) := by
  obtain ⟨trim, upper, lower⟩ := d
  have hUpper : Text.upperChars (Text.upperChars s) = Text.upperChars s :=
    Text.upperChars_of_upper fun _ hc => Text.upperChar_of_mem hc
  have hLower : Text.lowerChars (Text.lowerChars s) = Text.lowerChars s :=
    Text.lowerFrom_of_lower (fun _ hc => Text.lowerChar_of_mem hc) []
  cases upper <;> cases lower
  · simp [recase]
  · simpa [recase] using hLower
  · simpa [recase] using hUpper
  · simpa [recase] using Text.lowerChars_upperChars_iff s

theorem clean_clean_iff (s : String) : d.clean (d.clean s) = d.clean s ↔ ¬d.RespellsSharp s := by
  have hSharp : '\u1E9E' ∈ (if d.trim then Text.trimChars s.toList else s.toList) ↔ '\u1E9E' ∈ s.toList := by
    split
    · exact ⟨fun h => (Text.trimChars_sublist _).subset h, fun h => Text.mem_trimChars h (by decide)⟩
    · rfl
  have hTrim : (if d.trim then Text.trimChars (d.clean s).toList else (d.clean s).toList) = (d.clean s).toList := by
    split
    · next h => exact (d.isTrimmed_clean h s).trimChars_eq
    · rfl
  rw [← String.toList_inj, toList_clean, hTrim, toList_clean, recase_recase_iff, hSharp]
  rfl

theorem changed?_eq_none_iff (s : String) : d.changed? s = Option.none ↔ d.clean s = s := by
  rw [changed?]
  by_cases h : d.clean s = s <;> simp [h]

end Directive

theorem Value.sanitize_sanitize {d : Directive} {v : Value} (h : ∀ s, v = .text s → ¬d.RespellsSharp s) :
    (v.sanitize d).sanitize d = v.sanitize d := by
  cases v with
  | text s => exact congrArg Value.text ((d.clean_clean_iff s).mpr (h s rfl))
  | _ => rfl

/-- By induction on the nesting: a directive reaches the text behind any wrapper, and nothing else. -/
theorem Shape.sanitize_sanitize (s : Shape) {d : Directive} {x : s.Carrier}
    (h : ∀ t, FieldValue.toValue x = .text t → ¬d.RespellsSharp t) :
    FieldValue.sanitize d (FieldValue.sanitize d x) = FieldValue.sanitize d x := by
  induction s with
  | text => exact (d.clean_clean_iff x).mpr (h x rfl)
  | value => exact Value.sanitize_sanitize h
  | option inner ih =>
    cases (x : Option inner.Carrier) with
    | none => rfl
    | some a => exact congrArg some (ih h)
  | boxed inner ih => exact congrArg Boxed.mk (ih h)
  | bool | int | single | double | day | localTime | instant | custom => rfl

/-- By induction on the nesting: a wrapper is present when what it holds is. -/
theorem Shape.required_sanitize (s : Shape) (d : Directive) (x : s.Carrier) :
    Verdict.required (FieldValue.sanitize d x) = Verdict.required x := by
  induction s with
  | text => exact congrArg (fun b => !b) (d.blank_clean x)
  | value =>
    cases (x : Value) with
    | text s => exact congrArg (fun b => !b) (d.blank_clean s)
    | null | bool | int | float | date => rfl
  | option inner ih =>
    cases (x : Option inner.Carrier) with
    | none => rfl
    | some a => exact ih a
  | boxed inner ih => exact ih (Boxed.content x)
  | bool | int | single | double | day | localTime | instant | custom => rfl

namespace Directive

theorem clean_of_blank {d : Directive} (hTrim : d.trim = true) {s : String} (hBlank : Text.blank s = true) :
    d.clean s = "" := by
  rw [clean, if_pos hTrim, (Text.trim_eq_empty_iff s).mpr hBlank]
  cases d.upper <;> cases d.lower <;> rfl

/-- Sanitizing changes no verdict on whether a value is present, be it a text or one of any other type. White space that
is trimmed leaves the empty text, which is not present either. -/
theorem required_afterwards (d : Directive) :
    (∀ s : String, Verdict.required ((d.changed? s).getD s) = Verdict.required s) ∧
    (∀ (s : Shape) (x : s.Carrier), Verdict.required (FieldValue.sanitize d x) = Verdict.required x) ∧
    ∀ s : String, d.trim = true → Text.blank s = true →
      (d.changed? s).getD s = "" ∧ Verdict.required ((d.changed? s).getD s) = false := by
  simp only [changed?_getD]
  refine ⟨Shape.text.required_sanitize d, fun s x => s.required_sanitize d x, fun s hTrim hBlank => ?_⟩
  rw [clean_of_blank hTrim hBlank]
  exact ⟨rfl, rfl⟩

/-- White space alone, and white space before a letter whose upper case is two characters. -/
theorem required_afterwards_blank :
    (⟨true, true, false⟩ : Directive).trim = true ∧ Text.blank " \t" = true ∧
      Verdict.required ((changed? ⟨true, true, false⟩ " \t").getD " \t") = false ∧
      Verdict.required ((changed? ⟨true, true, false⟩ " \u0149").getD " \u0149") = true := by
  obtain ⟨hTexts, -, hBlank⟩ := required_afterwards ⟨true, true, false⟩
  exact ⟨rfl, by decide, (hBlank " \t" rfl (by decide)).2, (hTexts " \u0149").trans (by decide)⟩

end Directive
end FieldRules
