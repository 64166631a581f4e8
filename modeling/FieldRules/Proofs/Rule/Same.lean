import FieldRules.Declaration.Check
import FieldRules.Rule.Verdict

/-!
# Rules that are equal as declared data

Two rules that are equal as data differ at most in the signs of zeros. Every value gets the same verdict from
both; only the texts of their messages can tell them apart.
-/
set_option autoImplicit false

namespace FieldRules

namespace Double

theorem shiftLeft_lt {a m k n : Nat} (ha : a < 1 <<< m) (hk : k ≤ n) : a <<< k < 1 <<< (m + n) := by
  rw [Nat.one_shiftLeft] at ha ⊢
  calc
    a <<< k = a * 2 ^ k := Nat.shiftLeft_eq ..
    _ < 2 ^ m * 2 ^ k := Nat.mul_lt_mul_of_pos_right ha (Nat.two_pow_pos k)
    _ = 2 ^ (m + k) := (Nat.pow_add ..).symm
    _ ≤ 2 ^ (m + n) := Nat.pow_le_pow_right (by decide) (Nat.add_le_add_left hk m)

theorem Finite.magnitude_lt (x : Finite) : x.magnitude < 1 <<< 2098 := by
  have hSum : 53 + 2045 = 2098 := rfl
  have hLt := shiftLeft_lt x.mantissa_lt x.exponent_le
  rwa [hSum] at hLt

theorem Finite.units_between (x : Finite) : -beyond < x.units ∧ x.units < beyond := by
  have hBeyond : (x.magnitude : Int) < beyond := Int.ofNat_lt.mpr x.magnitude_lt
  unfold units
  split <;> omega

variable {x x' y y' : Double}

theorem position_eq_of_same (h : x.same x' = true) : x.position = x'.position := by
  unfold same at h
  split at h
  · next p q hp hq => rw [hp, hq, of_decide_eq_true h]
  · cases h

theorem isFinite_iff (x : Double) :
    x.isFinite = true ↔ ∃ p, x.position = some p ∧ -beyond < p ∧ p < beyond := by
  cases x with
  | nan => simp [isFinite, position]
  | infinite negative => cases negative <;> simp [isFinite, position]
  | finite z => simpa [isFinite, position] using z.units_between

theorem isFinite_eq_of_same (h : x.same x' = true) : x.isFinite = x'.isFinite := by
  rw [Bool.eq_iff_iff, isFinite_iff, isFinite_iff, position_eq_of_same h]

theorem same_eq_of_same (h : x.same x' = true) (y : Double) : y.same x = y.same x' := by
  rw [same, same, position_eq_of_same h]

theorem atMost_eq_of_position (hx : x.position = x'.position) (hy : y.position = y'.position) :
    x.atMost y = x'.atMost y' := by
  rw [atMost, atMost, hx, hy]

theorem atMost_eq_of_same (hx : x.same x' = true) (hy : y.same y' = true) : x.atMost y = x'.atMost y' :=
  atMost_eq_of_position (position_eq_of_same hx) (position_eq_of_same hy)

end Double

namespace Value

theorem eq_or_floats_of_same {v w : Value} (h : v.same w = true) :
    v = w ∨ ∃ x y, v = .float x ∧ w = .float y ∧ x.same y = true := by
  unfold same at h
  split at h
  · next x y => exact .inr ⟨x, y, rfl, rfl, h⟩
  · exact .inl (beq_iff_eq.mp h)

theorem looseEq_eq_of_same {v w : Value} (h : v.same w = true) (u : Value) : u.looseEq v = u.looseEq w := by
  obtain rfl | ⟨x, y, rfl, rfl, hSame⟩ := eq_or_floats_of_same h
  · rfl
  · have hEq := Double.same_eq_of_same hSame
    cases u with
    | int i => exact hEq _
    | float z => exact hEq z
    | text s =>
      change textEqualsNumber s x = textEqualsNumber s y
      rw [textEqualsNumber, textEqualsNumber]
      cases textNumber? s with
      | none => rfl
      | some z => exact hEq z
    | null | bool | date => rfl

end Value

/-- The rules are the same up to the numbers in them, which are equal as numbers. -/
inductive Rule.Alike : Rule → Rule → Prop where
  | refl (r : Rule) : Alike r r
  | range {min max min' max' : Double} (hMin : min.same min' = true) (hMax : max.same max' = true) :
    Alike (.range min max) (.range min' max')
  | requiredIf (other : String) {v v' : Value} (hTarget : v.same v' = true) :
    Alike (.requiredIf other v) (.requiredIf other v')
  | conditionalRange (other : String) {v v' : Value} {min max min' max' : Double}
    (hTarget : v.same v' = true) (hMin : min.same min' = true) (hMax : max.same max' = true) :
    Alike (.conditionalRange other v min max) (.conditionalRange other v' min' max')

theorem Rule.alike_of_same {r r' : Rule} (h : r.same r' = true) : Alike r r' := by
  unfold same at h
  split at h
  · obtain ⟨hMin, hMax⟩ := Bool.and_eq_true_iff.mp h
    exact .range hMin hMax
  · obtain ⟨hOther, hTarget⟩ := Bool.and_eq_true_iff.mp h
    obtain rfl := beq_iff_eq.mp hOther
    exact .requiredIf _ hTarget
  · obtain ⟨h, hMax⟩ := Bool.and_eq_true_iff.mp h
    obtain ⟨h, hMin⟩ := Bool.and_eq_true_iff.mp h
    obtain ⟨hOther, hTarget⟩ := Bool.and_eq_true_iff.mp h
    obtain rfl := beq_iff_eq.mp hOther
    exact .conditionalRange _ hTarget hMin hMax
  · obtain rfl := beq_iff_eq.mp h
    exact .refl _

namespace Verdict

variable {α β : Type} [FieldValue α] [FieldValue β]

theorem between_eq_of_same {min max min' max' : Double} (hMin : min.same min' = true)
    (hMax : max.same max' = true) : between min max = between min' max' := by
  funext x
  rw [between, between, Double.atMost_eq_of_position (Double.position_eq_of_same hMin) rfl,
    Double.atMost_eq_of_position rfl (Double.position_eq_of_same hMax)]

theorem range_eq_of_same {min max min' max' : Double} (hMin : min.same min' = true)
    (hMax : max.same max' = true) (a : α) : range min max a = range min' max' a := by
  rw [range, range, between_eq_of_same hMin hMax]

theorem conditionMet_eq_of_same {v v' : Value} (h : v.same v' = true) (sibling : β) :
    conditionMet v sibling = conditionMet v' sibling :=
  Value.looseEq_eq_of_same h _

end Verdict

namespace Rule.Alike

variable {r r' : Rule} (h : Alike r r')

include h

theorem sibling?_eq : r.sibling? = r'.sibling? := by
  cases h <;> rfl

theorem passes_eq (now : Instant) (sibling : Option Value) (v : Value) :
    r.passes now sibling v = r'.passes now sibling v := by
  cases h with
  | refl => rfl
  | range hMin hMax => exact Verdict.range_eq_of_same hMin hMax v
  | requiredIf other hTarget =>
    change (!_ || _) = (!_ || _)
    rw [Verdict.conditionMet_eq_of_same hTarget]
  | conditionalRange other hTarget hMin hMax =>
    change (!_ || _) = (!_ || _)
    rw [Verdict.conditionMet_eq_of_same hTarget, Verdict.range_eq_of_same hMin hMax]

theorem typeDefect_eq (field : String) (type : FieldType) :
    r.typeDefect field type = r'.typeDefect field type := by
  cases h <;> rfl

theorem emptySetDefect_eq (field : String) : r.emptySetDefect field = r'.emptySetDefect field := by
  cases h <;> rfl

/-- Bounds are in order or not, whatever the signs of zeros; only the report spells them. -/
theorem boundsDefect_eq_nil_iff (field : String) :
    r.boundsDefect field = [] ↔ r'.boundsDefect field = [] := by
  have hOrdered {min max min' max' : Double} (hMin : min.same min' = true) (hMax : max.same max' = true) :
      (min.isFinite && max.isFinite && min.atMost max) =
        (min'.isFinite && max'.isFinite && min'.atMost max') := by
    rw [Double.isFinite_eq_of_same hMin, Double.isFinite_eq_of_same hMax,
      Double.atMost_eq_of_same hMin hMax]
  cases h with
  | refl => rfl
  | range hMin hMax | conditionalRange _ _ hMin hMax =>
    simp only [boundsDefect, hOrdered hMin hMax]
    split <;> simp
  | requiredIf => rfl

end Rule.Alike
end FieldRules
