import FieldRules.Value.Basic

/-!
# Comparison of values

The comparison of conditional rules does not tell its two sides apart, so that it makes no difference which of them is
the value of the record and which the declared one.
-/
set_option autoImplicit false

namespace FieldRules.Value

/-- Two values of one kind are told by a symmetric test. Of two different kinds, a text is always the one that is
read as the other, whichever side it stands on. -/
theorem looseEq_comm (a b : Value) : a.looseEq b = b.looseEq a := by
  cases a with
  | null => cases b <;> rfl
  | bool p =>
    cases b with
    | bool q => exact Bool.beq_comm
    | null | int | float | text | date => rfl
  | int i =>
    cases b with
    | int j => exact Bool.beq_comm
    | float x => exact Double.same_comm ..
    | null | bool | text | date => rfl
  | float x =>
    cases b with
    | int i => exact Double.same_comm ..
    | float y => exact Double.same_comm x y
    | null | bool | text | date => rfl
  | text s =>
    cases b with
    | text t => exact Bool.beq_comm
    | null | bool | int | float | date => rfl
  | date t =>
    cases b with
    | date u => exact Bool.beq_comm
    | null | bool | int | float | text => rfl

end FieldRules.Value
