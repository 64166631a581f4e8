import FieldRules.Proofs.Source.Reading
import Mathlib.Algebra.Group.Nat.Defs

/-!
# Literals

Which expressions are literals of a kind: a number, a length, a text, texts, a value to compare with, an entry
of a list. Each reader accepts exactly the literals of its kind.
-/
set_option autoImplicit false

namespace FieldRules

theorem IntKind.unsigned_holds_iff (n : Nat) : (unsigned 64).holds n = true ↔ n < 2 ^ 64 := by
  have hLeast : (unsigned 64).least = 0 := rfl
  have hGreatest : (unsigned 64).greatest = 2 ^ 64 - 1 := rfl
  simp only [holds, hLeast, hGreatest, Bool.and_eq_true, decide_eq_true_eq]
  omega

theorem IntKind.signed_holds_iff (n : Nat) : (signed 64).holds n = true ↔ n < 2 ^ 63 := by
  have hLeast : (signed 64).least = -2 ^ 63 := rfl
  have hGreatest : (signed 64).greatest = 2 ^ 63 - 1 := rfl
  simp only [holds, hLeast, hGreatest, Bool.and_eq_true, decide_eq_true_eq]
  omega

theorem Value.display?_eq_none_iff (v : Value) : v.display? = none ↔ v = .null := by
  cases v <;> simp [display?]

namespace Source.Expr

inductive IsNumber : Expr → Prop where
  | int (spot : Spot) (n : Nat) : IsNumber (.constant spot (.int n))
  | float (spot : Spot) (x : Double) : IsNumber (.constant spot (.float x))
  | negation (spot : Spot) {inner : Expr} (h : IsNumber inner) : IsNumber (.negation spot inner)
  | grouped (spot : Spot) {inner : Expr} (h : IsNumber inner) : IsNumber (.grouped spot inner)

inductive IsSize : Expr → Prop where
  | int (spot : Spot) {n : Nat} (h : n < 2 ^ 64) : IsSize (.constant spot (.int n))
  | grouped (spot : Spot) {inner : Expr} (h : IsSize inner) : IsSize (.grouped spot inner)

inductive Says : Expr → String → Prop where
  | text (spot : Spot) (s : String) : Says (.constant spot (.text s)) s
  | grouped (spot : Spot) {inner : Expr} {s : String} (h : Says inner s) : Says (.grouped spot inner) s

def IsText (e : Expr) : Prop :=
  ∃ s, e.Says s

inductive IsTexts : Expr → Prop where
  | array (spot : Spot) {items : List Expr} (h : ∀ e ∈ items, e.IsText) : IsTexts (.array spot items)
  | text {e : Expr} (h : e.IsText) : IsTexts e

/-- A number that a value can hold. The sign does not belong to the literal of an integer. -/
inductive IsSigned : Expr → Prop where
  | int (spot : Spot) {n : Nat} (h : n < 2 ^ 63) : IsSigned (.constant spot (.int n))
  | float (spot : Spot) (x : Double) : IsSigned (.constant spot (.float x))
  | negation (spot : Spot) {inner : Expr} (h : IsSigned inner) : IsSigned (.negation spot inner)
  | grouped (spot : Spot) {inner : Expr} (h : IsSigned inner) : IsSigned (.grouped spot inner)

inductive IsTruth : Expr → Prop where
  | bool (spot : Spot) (b : Bool) : IsTruth (.constant spot (.bool b))
  | grouped (spot : Spot) {inner : Expr} (h : IsTruth inner) : IsTruth (.grouped spot inner)

inductive IsNull : Expr → Prop where
  | path (spot : Spot) {p : Path} (h : p.name? = some "None" ∨ p.name? = some "null") : IsNull (.path spot p)
  | grouped (spot : Spot) {inner : Expr} (h : IsNull inner) : IsNull (.grouped spot inner)

/-- A literal with a text of its own. -/
def IsDisplayed (e : Expr) : Prop :=
  e.IsText ∨ e.IsTruth ∨ e.IsSigned

def IsValue (e : Expr) : Prop :=
  e.IsDisplayed ∨ e.IsNull

theorem number_iff (e : Expr) : (∃ x, e.number = .ok x) ↔ e.IsNumber := by
  constructor
  · rintro ⟨x, h⟩
    fun_induction number e generalizing x with
    | case1 spot n => exact .int spot n
    | case2 spot y => exact .float spot y
    | case3 spot inner ih =>
      cases hInner : inner.number with
      | error d => rw [hInner] at h; cases h
      | ok y => exact .negation spot (ih y hInner)
    | case4 spot inner ih => exact .grouped spot (ih x h)
    | case5 => cases h
  · intro h
    induction h with
    | int spot n => exact ⟨_, rfl⟩
    | float spot x => exact ⟨_, rfl⟩
    | negation spot h ih =>
      obtain ⟨x, hx⟩ := ih
      exact ⟨x.neg, by rw [number, hx]; rfl⟩
    | grouped spot h ih => exact ih

theorem size_iff (e : Expr) : (∃ n, e.size = .ok n) ↔ e.IsSize := by
  constructor
  · rintro ⟨x, h⟩
    fun_induction size e with
    | case1 spot n hFits => exact .int spot ((IntKind.unsigned_holds_iff n).mp hFits)
    | case4 spot inner ih => exact .grouped spot (ih h)
    | case2 | case3 | case5 => cases h
  · intro h
    induction h with
    | int spot h => exact ⟨_, by rw [size, if_pos ((IntKind.unsigned_holds_iff _).mpr h)]⟩
    | grouped spot h ih => exact ih

theorem text_eq_ok_iff (e : Expr) (s : String) : e.text = .ok s ↔ e.Says s := by
  constructor
  · intro h
    fun_induction text e with
    | case1 =>
      cases h
      exact .text _ s
    | case2 spot inner ih => exact .grouped spot (ih h)
    | case3 => cases h
  · intro h
    induction h with
    | text spot s => rfl
    | grouped spot h ih => exact ih

theorem text_iff (e : Expr) : (∃ s, e.text = .ok s) ↔ e.IsText :=
  exists_congr fun s => e.text_eq_ok_iff s

theorem texts_iff (e : Expr) : (∃ texts, e.texts = .ok texts) ↔ e.IsTexts := by
  constructor
  · rintro ⟨texts, h⟩
    unfold Expr.texts at h
    split at h
    · next spot items => exact .array spot fun e he => (text_iff e).mp (exists_mapM_iff.mp ⟨texts, h⟩ e he)
    · cases hText : e.text with
      | error d => rw [hText] at h; cases h
      | ok s => exact .text ⟨s, (text_eq_ok_iff e s).mp hText⟩
  · intro h
    cases h with
    | array spot h => exact exists_mapM_iff.mpr fun e he => (text_iff e).mpr (h e he)
    | text h =>
      obtain ⟨s, hs⟩ := h
      have hText := (text_eq_ok_iff e s).mpr hs
      refine ⟨listed s, ?_⟩
      cases hs with
      | text spot s => rfl
      | grouped spot hs => exact congrArg (Except.map listed) hText

theorem value_of_says {e : Expr} {s : String} (h : e.Says s) : e.value = .ok (.text s) := by
  induction h with
  | text spot s => rfl
  | grouped spot h ih => exact ih

theorem value_of_isTruth {e : Expr} (h : e.IsTruth) : ∃ b, e.value = .ok (.bool b) := by
  induction h with
  | bool spot b => exact ⟨b, rfl⟩
  | grouped spot h ih => exact ih

theorem value_of_isNull {e : Expr} (h : e.IsNull) : e.value = .ok .null := by
  induction h with
  | path spot h => simp [value, h]
  | grouped spot h ih => exact ih

/-- The value of a number has a negative, which is that of the number behind a minus. -/
theorem value_of_isSigned {e : Expr} (h : e.IsSigned) : ∃ v w, e.value = .ok v ∧ negated? v = some w := by
  induction h with
  | @int spot n h =>
    refine ⟨.int (Int64.ofNat n), _, ?_, rfl⟩
    simp only [value, (IntKind.signed_holds_iff n).mpr h, if_true]
  | float spot x => exact ⟨.float x, _, rfl, rfl⟩
  | @negation spot inner h ih =>
    obtain ⟨v, w, hv, hw⟩ := ih
    have hValue : (negation spot inner).value = .ok w := by simp only [value, hv, hw]
    cases v <;> cases hw <;> exact ⟨_, _, hValue, rfl⟩
  | grouped spot h ih => exact ih

def IsLiteralOf (e : Expr) : Value → Prop
  | .text s => e.Says s
  | .bool _ => e.IsTruth
  | .null => e.IsNull
  | .date _ => False
  | .int _ | .float _ => e.IsSigned

theorem isLiteralOf_value {e : Expr} {v : Value} (h : e.value = .ok v) : e.IsLiteralOf v := by
  fun_induction value e generalizing v with
  | case1 spot s => cases h; exact .text spot s
  | case2 spot b => cases h; exact .bool spot b
  | case3 spot n hFits => cases h; exact .int spot ((IntKind.signed_holds_iff n).mp hFits)
  | case5 spot x => cases h; exact .float spot x
  | case8 spot inner u hInner w hw ih =>
    cases h
    have hSigned := ih hInner
    cases u <;> cases hw <;> exact .negation spot hSigned
  | case10 spot p hName =>
    cases h
    exact .path spot (by simpa using hName)
  | case12 spot inner ih =>
    have hInner := ih h
    cases v with
    | text | bool | null | int | float => exact .grouped spot hInner
    | date => exact hInner
  | case4 | case6 | case7 | case9 | case11 | case13 => cases h

theorem displayed_iff (e : Expr) : (∃ v, e.value = .ok v ∧ v ≠ .null) ↔ e.IsDisplayed := by
  constructor
  · rintro ⟨v, hValue, hNull⟩
    have hLiteral := isLiteralOf_value hValue
    cases v with
    | null => exact absurd rfl hNull
    | text s => exact .inl ⟨s, hLiteral⟩
    | bool b => exact .inr (.inl hLiteral)
    | int | float => exact .inr (.inr hLiteral)
    | date => exact hLiteral.elim
  · rintro (⟨s, hText⟩ | hTruth | hSigned)
    · exact ⟨_, value_of_says hText, nofun⟩
    · obtain ⟨b, hValue⟩ := value_of_isTruth hTruth
      exact ⟨_, hValue, nofun⟩
    · obtain ⟨v, w, hValue, hNegated⟩ := value_of_isSigned hSigned
      refine ⟨v, hValue, ?_⟩
      rintro rfl
      cases hNegated

theorem value_iff (e : Expr) : (∃ v, e.value = .ok v) ↔ e.IsValue := by
  rw [IsValue, ← displayed_iff]
  constructor
  · rintro ⟨v, hValue⟩
    by_cases hNull : v = .null
    · subst hNull
      exact .inr (isLiteralOf_value hValue)
    · exact .inl ⟨v, hValue, hNull⟩
  · rintro (⟨v, hValue, -⟩ | hNull)
    · exact ⟨v, hValue⟩
    · exact ⟨_, value_of_isNull hNull⟩

end Source.Expr
end FieldRules
