import FieldRules.Proofs.Source.Decimal
import FieldRules.Proofs.Source.Literals
import FieldRules.Proofs.Source.Values

/-!
# Signed integers

An integer behind signs and in groups that are not written is read as a value if its literal fits without a sign. So
the sign never overflows, and the least integer has no text that is read.
-/
set_option autoImplicit false

namespace FieldRules.Source

open Parsing

theorem natAbs_toInt_lt_iff (i : Int64) : i.toInt.natAbs < 2 ^ 63 ↔ i ≠ Int64.minValue := by
  have hLow := i.le_toInt
  have hHigh := i.toInt_lt
  rw [ne_eq, ← Int64.toInt_inj, Int64.toInt_minValue]
  omega

theorem toInt_neg_of_natAbs_lt {i : Int64} (h : i.toInt.natAbs < 2 ^ 63) : (-i).toInt = -i.toInt := by
  rw [← Int64.ofInt_toInt i, ← Int64.ofInt_neg, Int64.toInt_ofInt_of_le (by omega) (by omega), Int64.ofInt_toInt]

/-- A literal behind signs and in groups that are not written, with its trees. -/
inductive WrittenNumber : List Tree → Expr → Prop where
  | literal (spot : Spot) (l : Literal) : WrittenNumber [.literal spot l] (.constant spot l.value.constant)
  | minus (spot : Spot) (joint : Bool) {ts : List Tree} {e : Expr} (h : WrittenNumber ts e) :
      WrittenNumber (.mark spot '-' joint :: ts) (.negation spot e)
  | group (opening closing : Spot) {ts : List Tree} {e : Expr} (h : WrittenNumber ts e) :
      WrittenNumber [.group opening closing .invisible ts] (.grouped opening e)

theorem atom_grouped {fuel : Nat} {braces : Bool} {opening inner closing : Spot} {content rest : List Tree} {e : Expr}
    (h : expr fuel true ⟨content, inner⟩ = .ok (e, ⟨[], inner⟩)) :
    atom (fuel + 1) braces ⟨.group opening inner .invisible content :: rest, closing⟩ =
      .ok (.grouped opening e, ⟨rest, closing⟩) := by
  have hInside : inside content inner (expr fuel true) ⟨rest, closing⟩ = .ok (e, ⟨rest, closing⟩) := inside_ok h _
  rw [atom, spot_bind, peek_bind]
  change (inside content inner (expr fuel true) >>= fun e => pure (Expr.grouped opening e)) ⟨rest, closing⟩ = _
  exact bind_ok hInside _

/-- A sign takes one unit of fuel, and a group three, which are fewer than the trees allow. -/
theorem WrittenNumber.unary_reads {ts : List Tree} {e : Expr} (h : WrittenNumber ts e) (fuel : Nat) (braces : Bool)
    (hFuel : 2 * sizeOfTrees ts ≤ fuel) {rest : List Tree} (hRest : EndsItem rest) (closing : Spot) :
    unary fuel braces ⟨ts ++ rest, closing⟩ = .ok (e, ⟨rest, closing⟩) := by
  induction h generalizing fuel braces rest closing with
  | literal spot l =>
    obtain ⟨fuel, rfl⟩ := Nat.exists_eq_add_of_le' hFuel
    exact unary_atom (by simp [Tree.isMark]) (atom_literal spot l) hRest
  | @minus spot joint ts e h ih =>
    have hSize : sizeOfTrees (.mark spot '-' joint :: ts) = 1 + sizeOfTrees ts := rfl
    obtain ⟨fuel, rfl⟩ := Nat.exists_eq_add_of_le' (by omega : 1 ≤ fuel)
    exact unary_minus (ih fuel braces (by omega) hRest closing)
  | @group opening inner ts e h ih =>
    have hSize : sizeOfTrees [.group opening inner .invisible ts] = sizeOfTrees ts + 2 := rfl
    obtain ⟨fuel, rfl⟩ := Nat.exists_eq_add_of_le' (by omega : 3 ≤ fuel)
    -- nothing stands behind the content within its group
    have hInner := ih fuel true (by omega) .nil inner
    rw [List.append_nil] at hInner
    exact unary_atom (by simp [Tree.isMark]) (atom_grouped (expr_unary hInner .nil)) hRest

theorem WrittenNumber.ofTrees {ts : List Tree} {e : Expr} (h : WrittenNumber ts e) (closing : Spot) :
    Expr.ofTrees ts closing = .ok e := by
  have hRead : expr (fuelFor ts) true ⟨ts, closing⟩ = .ok (e, ⟨[], closing⟩) := by
    have hUnary := h.unary_reads (16 * sizeOfTrees ts + 15) true (by omega) .nil closing
    rw [List.append_nil] at hUnary
    exact expr_unary hUnary .nil
  rw [Expr.ofTrees, run, expression, rest_bind, hRead]

def inGroups (ts : List Tree) : List (Spot × Spot) → List Tree
  | [] => ts
  | (opening, closing) :: groups => [.group opening closing .invisible (inGroups ts groups)]

namespace Expr

/-- The integer that an expression spells with signs and groups, however large it is. -/
def integer? : Expr → Option Int
  | constant _ (.int n) => some n
  | negation _ inner => inner.integer?.map Neg.neg
  | grouped _ inner => inner.integer?
  | _ => none

/-- Groups around the trees of an expression are written for an expression of the same integer. -/
theorem exists_inGroups {ts : List Tree} {e : Expr} (h : WrittenNumber ts e) (groups : List (Spot × Spot)) :
    ∃ e', WrittenNumber (inGroups ts groups) e' ∧ e'.integer? = e.integer? := by
  induction groups with
  | nil => exact ⟨e, h, rfl⟩
  | cons g groups ih =>
    obtain ⟨e', hWritten, hSame⟩ := ih
    exact ⟨_, .group g.1 g.2 hWritten, hSame⟩

theorem exists_decimalTrees (i : Int) : ∃ e, WrittenNumber (decimalTrees i) e ∧ e.integer? = some i := by
  rw [decimalTrees]
  split
  · next h =>
    have hNegative : -(i.natAbs : Int) = i := by omega
    exact ⟨_, .minus .start false (.literal ⟨1, 1⟩ (numeral i.natAbs)), congrArg some hNegative⟩
  · next h =>
    have hPositive : (i.natAbs : Int) = i := by omega
    exact ⟨_, .literal .start (numeral i.natAbs), congrArg some hPositive⟩

/-- An integer is read if 63 bits hold it without its signs. -/
theorem value_of_integer? {e : Expr} {i : Int} (h : e.integer? = some i) :
    (i.natAbs < 2 ^ 63 → e.value = .ok (.int (Int64.ofInt i))) ∧
      (2 ^ 63 ≤ i.natAbs → ∃ spot, e.value = .error ⟨spot, tooLarge⟩) := by
  fun_induction integer? e generalizing i with
  | case1 spot n =>
    obtain rfl := Option.some.inj h
    rw [Int.natAbs_natCast, ← IntKind.signed_holds_iff, ← Nat.not_lt, ← IntKind.signed_holds_iff]
    exact ⟨fun hFits => if_pos hFits, fun hFits => ⟨spot, if_neg hFits⟩⟩
  | case2 spot inner ih =>
    obtain ⟨j, hInner, rfl⟩ := Option.map_eq_some_iff.mp h
    obtain ⟨hFits, hLarge⟩ := ih hInner
    -- the sign leaves the bound as it is, which is why it cannot save a literal that is too large
    rw [Int.natAbs_neg]
    refine ⟨fun hBound => ?_, fun hBound => ?_⟩
    · rw [value, hFits hBound, Int64.ofInt_neg]
      rfl
    · obtain ⟨spot', hError⟩ := hLarge hBound
      exact ⟨spot', by rw [value, hError]⟩
  | case3 spot inner ih => exact ih h
  | case4 => cases h

/-- What is read as an integer spells it, in 63 bits without its sign. -/
theorem integer?_of_value {e : Expr} {i : Int64} (h : e.value = .ok (.int i)) :
    e.integer? = some i.toInt ∧ i.toInt.natAbs < 2 ^ 63 := by
  fun_induction value e generalizing i with
  | case3 spot n hFits =>
    have hBound := (IntKind.signed_holds_iff n).mp hFits
    obtain rfl := Value.int.inj (Except.ok.inj h)
    rw [Int64.toInt_ofNat_of_lt hBound]
    exact ⟨rfl, hBound⟩
  | case8 spot inner v hInner w hNegated ih =>
    obtain rfl := Except.ok.inj h
    cases v with
    | int j =>
      obtain ⟨hSpelled, hBound⟩ := ih hInner
      obtain rfl := Value.int.inj (Option.some.inj hNegated)
      rw [toInt_neg_of_natAbs_lt hBound, Int.natAbs_neg, integer?, hSpelled]
      exact ⟨rfl, hBound⟩
    | null | bool | float | text | date => cases hNegated
  | case12 spot inner ih => exact ih h
  | case1 | case2 | case4 | case5 | case6 | case7 | case9 | case10 | case11 | case13 => cases h

theorem value_eq_int_iff (e : Expr) (i : Int64) :
    e.value = .ok (.int i) ↔ e.integer? = some i.toInt ∧ i ≠ Int64.minValue := by
  rw [← natAbs_toInt_lt_iff]
  constructor
  · exact integer?_of_value
  · rintro ⟨hSpelled, hBound⟩
    rw [(value_of_integer? hSpelled).1 hBound, Int64.ofInt_toInt]

/-- The decimal text of an integer, in any number of groups that are not written, is an expression of that integer. It
is read as that integer unless it is the least one, which is too large for a literal without its sign. Whatever is
read as an integer spells it with signs and groups and is not the least one, so that its negative fits. -/
theorem value_spelled (n : Int64) (groups : List (Spot × Spot)) (closing : Spot) :
    (∃ ts e, trees (toString n.toInt) = .ok ts ∧ Expr.ofTrees (inGroups ts groups) closing = .ok e ∧
      e.integer? = some n.toInt ∧ (e.value = .ok (.int n) ↔ n ≠ Int64.minValue) ∧
      (n = Int64.minValue → ∃ spot, e.value = .error ⟨spot, tooLarge⟩)) ∧
    (∀ (e : Expr) (i : Int64), e.value = .ok (.int i) ↔ e.integer? = some i.toInt ∧ i ≠ Int64.minValue) ∧
    ∀ (e : Expr) (i : Int64), e.value = .ok (.int i) → (-i).toInt = -i.toInt := by
  refine ⟨?_, value_eq_int_iff, fun e i h => toInt_neg_of_natAbs_lt (integer?_of_value h).2⟩
  obtain ⟨inner, hInner, hSpelled⟩ := exists_decimalTrees n.toInt
  obtain ⟨e, hWritten, hSame⟩ := exists_inGroups hInner groups
  rw [hSpelled] at hSame
  refine ⟨decimalTrees n.toInt, e, trees_toString n.toInt, hWritten.ofTrees closing, hSame, ?_, fun hLeast => ?_⟩
  · rw [value_eq_int_iff, and_iff_right hSame]
  · refine (value_of_integer? hSame).2 (Nat.not_lt.mp ?_)
    rw [natAbs_toInt_lt_iff]
    exact not_not_intro hLeast

/-- The literal of the least integer is too large before its sign is looked at. -/
theorem value_minValue :
    Int64.minValue.toInt = -9223372036854775808 ∧ ∃ ts e, trees "-9223372036854775808" = .ok ts ∧
      Expr.ofTrees ts ⟨1, 20⟩ = .ok e ∧ e.value ≠ .ok (.int Int64.minValue) ∧ e.value = .error ⟨⟨1, 1⟩, tooLarge⟩ := by
  have hText : toString (-9223372036854775808 : Int) = "-9223372036854775808" := rfl
  have hTrees := trees_toString (-9223372036854775808)
  rw [hText] at hTrees
  have hWritten := WrittenNumber.minus .start false (.literal ⟨1, 1⟩ (numeral 9223372036854775808))
  exact ⟨rfl, _, _, hTrees, hWritten.ofTrees ⟨1, 20⟩, nofun, rfl⟩

end Expr
end FieldRules.Source
