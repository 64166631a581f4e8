import FieldRules.Double.Digits
import FieldRules.Proofs.Double.Nearest

/-!
# The interval around a number

The counts of units that lie in the rounding interval of a number are those that no other number is nearer to, or as
near to where the mantissa is odd.
-/
set_option autoImplicit false

namespace FieldRules.Double

def Rounding.Covers (r : Rounding) (w : Nat) : Prop :=
  if r.closed then r.low ≤ 4 * w ∧ 4 * w ≤ r.high else r.low < 4 * w ∧ 4 * w < r.high

theorem Rounding.Covers.between {r : Rounding} {a b c : Nat} (ha : r.Covers a) (hc : r.Covers c) (hab : a ≤ b)
    (hbc : b ≤ c) : r.Covers b := by
  unfold Covers at *
  split
  · next hClosed =>
    rw [if_pos hClosed] at ha hc
    omega
  · next hOpen =>
    rw [if_neg hOpen] at ha hc
    omega

namespace Finite

variable (x : Finite)

def step : Nat :=
  2 ^ x.exponent

def below : Nat :=
  if x.mantissa = 2 ^ 52 ∧ 0 < x.exponent then x.step else 2 * x.step

theorem magnitude_eq : x.magnitude = x.mantissa * x.step :=
  Nat.shiftLeft_eq ..

theorem step_pos : 0 < x.step :=
  Nat.two_pow_pos x.exponent

theorem below_le : x.below ≤ 2 * x.step := by
  unfold below
  split <;> omega

theorem below_pos : 0 < x.below := by
  have hStep := x.step_pos
  unfold below
  split <;> omega

theorem covers_iff (w : Nat) :
    x.rounding.Covers w ↔
      if x.mantissa % 2 = 0 then 4 * x.magnitude ≤ 4 * w + x.below ∧ 4 * w ≤ 4 * x.magnitude + 2 * x.step
      else 4 * x.magnitude < 4 * w + x.below ∧ 4 * w < 4 * x.magnitude + 2 * x.step := by
  have hLow : x.rounding.low = 4 * x.magnitude - x.below := by
    simp only [rounding, below, step, Nat.one_shiftLeft]
  have hHigh : x.rounding.high = 4 * x.magnitude + 2 * x.step := by
    simp only [rounding, step, Nat.one_shiftLeft]
  have hClosed : x.rounding.closed = decide (x.mantissa % 2 = 0) := rfl
  simp only [Rounding.Covers, hLow, hHigh, hClosed, decide_eq_true_eq]
  split
  · omega
  · next hOdd =>
    have hLeast : 1 * x.step ≤ x.mantissa * x.step := Nat.mul_le_mul_right _ (by omega)
    have hBelow := x.below_le
    have hStep := x.step_pos
    rw [x.magnitude_eq]
    omega

variable {x}

theorem magnitude_apart (x y : Finite) :
    2 * y.magnitude + x.below ≤ 2 * x.magnitude ∨ y.magnitude = x.magnitude ∨ x.magnitude + x.step ≤ y.magnitude := by
  have hLe := x.below_le
  obtain ⟨k, hGrid, -⟩ | ⟨hScaled, hLow⟩ := y.magnitude_onGrid x.exponent
  · have hNext : (x.mantissa + 1) * x.step = x.mantissa * x.step + x.step := Nat.succ_mul ..
    rw [hGrid, x.magnitude_eq]
    change 2 * (k * x.step) + _ ≤ _ ∨ k * x.step = _ ∨ _ ≤ k * x.step
    obtain h | rfl | rfl | h := mul_apart k x.mantissa x.step <;> omega
  · -- the exponent of the other number is smaller, and no such number comes close to a full mantissa but the last one
    change y.magnitude < 2 ^ 52 * x.step at hLow
    have hFull : 2 ^ 52 ≤ x.mantissa := x.normal_two_pow.resolve_left (by omega)
    refine .inl ?_
    rw [x.magnitude_eq]
    obtain hLeast | hMore := Nat.eq_or_lt_of_le hFull
    · have hBelow : x.below = x.step := if_pos ⟨hLeast.symm, hScaled⟩
      obtain ⟨half, hHalf⟩ : ∃ half, half = 2 ^ (x.exponent - 1) := ⟨_, rfl⟩
      have hStep : x.step = 2 * half := by
        rw [hHalf, ← Nat.pow_succ', step, Nat.succ_eq_add_one, Nat.sub_add_cancel hScaled]
      obtain ⟨k, hGrid, -⟩ | ⟨-, hLower⟩ := y.magnitude_onGrid (x.exponent - 1)
      · rw [← hHalf] at hGrid
        rw [← hLeast, hBelow]
        obtain h | rfl | rfl | h := mul_apart k (2 ^ 53) half <;> omega
      · rw [← hHalf] at hLower
        rw [← hLeast, hBelow]
        omega
    · have hNext : (2 ^ 52 + 1) * x.step ≤ x.mantissa * x.step := Nat.mul_le_mul_right _ hMore
      omega

theorem exists_magnitude {mantissa exponent : Nat} (hMantissa : mantissa < 2 ^ 53) (hExponent : exponent ≤ 2045)
    (hNormal : exponent = 0 ∨ 2 ^ 52 ≤ mantissa) : ∃ y : Finite, y.magnitude = mantissa * 2 ^ exponent := by
  rw [← Nat.one_shiftLeft] at hMantissa
  rw [← Nat.one_shiftLeft 52] at hNormal
  exact ⟨⟨false, mantissa, exponent, hMantissa, hExponent, hNormal⟩, Nat.shiftLeft_eq ..⟩

theorem exists_before {x : Finite} (hPos : 0 < x.magnitude) :
    ∃ y : Finite, 2 * y.magnitude + x.below = 2 * x.magnitude := by
  have hMantissa := x.mantissa_lt_two_pow
  have hExponent := x.exponent_le
  have hNormal := x.normal_two_pow
  rw [x.magnitude_eq] at hPos ⊢
  obtain ⟨m, hm⟩ : ∃ m, x.mantissa = m + 1 := Nat.exists_eq_add_of_le' (Nat.pos_of_mul_pos_right hPos)
  by_cases hLeast : x.mantissa = 2 ^ 52 ∧ 0 < x.exponent
  · -- the number before has all bits and the next smaller exponent
    obtain ⟨e, he⟩ : ∃ e, x.exponent = e + 1 := Nat.exists_eq_add_of_le' hLeast.2
    obtain ⟨y, hy⟩ := exists_magnitude (by decide : 2 ^ 53 - 1 < 2 ^ 53) (by omega : e ≤ 2045) (.inr (by decide))
    have hBelow : x.below = x.step := if_pos hLeast
    refine ⟨y, ?_⟩
    rw [hy, hBelow, hLeast.1, step, he, Nat.pow_succ]
    omega
  · obtain ⟨y, hy⟩ := exists_magnitude (by omega : m < 2 ^ 53) hExponent (by omega)
    have hBelow : x.below = 2 * x.step := if_neg hLeast
    refine ⟨y, ?_⟩
    have hNext : (m + 1) * x.step = m * x.step + x.step := Nat.succ_mul ..
    rw [hy, hBelow, hm, hNext]
    change 2 * (m * x.step) + 2 * x.step = _
    omega

theorem exists_after {x : Finite} (hExponent : x.exponent < 2045) :
    ∃ y : Finite, y.magnitude = x.magnitude + x.step := by
  have hMantissa := x.mantissa_lt_two_pow
  have hNormal := x.normal_two_pow
  have hNext : (x.mantissa + 1) * x.step = x.mantissa * x.step + x.step := Nat.succ_mul ..
  rw [x.magnitude_eq, ← hNext]
  by_cases hLast : x.mantissa + 1 = 2 ^ 53
  · obtain ⟨y, hy⟩ :=
      exists_magnitude (by decide : 2 ^ 52 < 2 ^ 53) (hExponent : x.exponent + 1 ≤ 2045) (.inr (by decide))
    refine ⟨y, ?_⟩
    rw [hy, hLast, step, Nat.pow_succ 2 x.exponent]
    omega
  · exact exists_magnitude (by omega) (Nat.le_of_lt hExponent) (by omega)

/-- A count of units lies in the interval of a number exactly if no other number is nearer, nor as near where the
mantissa is odd. -/
theorem covers_iff_nearest {x : Finite} (hPos : 0 < x.magnitude) (hExponent : x.exponent < 2045) (w : Nat) :
    x.rounding.Covers w ↔ ∀ y : Finite,
      (x.magnitude - w : Int).natAbs ≤ (y.magnitude - w : Int).natAbs ∧
        ((y.magnitude - w : Int).natAbs = (x.magnitude - w : Int).natAbs → y.magnitude ≠ x.magnitude →
          x.mantissa % 2 = 0) := by
  rw [covers_iff]
  constructor
  · intro hCovers y
    have hApart := magnitude_apart x y
    split at hCovers <;> omega
  · intro h
    obtain ⟨y, hBefore⟩ := exists_before hPos
    obtain ⟨z, hAfter⟩ := exists_after hExponent
    have hStep := x.step_pos
    have hBelow := x.below_pos
    have hy := h y
    have hz := h z
    split <;> omega

/-- A number of the other sign is as far away as both magnitudes together. -/
theorem distance_eq (x : Finite) (i : Int) :
    x.distance i =
      if x.negative = decide (i < 0) then (x.magnitude - (i.natAbs <<< 1074 : Nat) : Int).natAbs
      else x.magnitude + i.natAbs <<< 1074 := by
  simp only [distance, units, unitsOf_eq]
  generalize i.natAbs <<< 1074 = n
  by_cases hNegative : i < 0 <;> cases x.negative <;> simp [hNegative] <;> omega

theorem units_eq_iff {x y : Finite} (hSign : x.negative = y.negative) :
    x.units = y.units ↔ x.magnitude = y.magnitude := by
  unfold units
  rw [hSign]
  split <;> omega

/-- The integers that a number is nearest to are those of its sign that lie in its interval. -/
theorem isNearest_iff_covers {x : Finite} (hPos : 0 < x.magnitude) (hExponent : x.exponent < 2045) (i : Int) :
    x.IsNearest i ↔ x.negative = decide (i < 0) ∧ x.rounding.Covers (i.natAbs <<< 1074) := by
  rw [covers_iff_nearest hPos hExponent]
  -- zero, which is nearer than each number of the other sign
  obtain ⟨zero, hZero⟩ := exists_magnitude (by decide : 0 < 2 ^ 53) (by decide : 0 ≤ 2045) (.inl rfl)
  rw [Nat.zero_mul] at hZero
  constructor
  · intro h
    have hSign : x.negative = decide (i < 0) := by
      refine Decidable.byContradiction fun hOther => ?_
      have hNearest := h.nearest zero
      rw [distance_eq x, distance_eq zero, if_neg hOther, hZero] at hNearest
      split at hNearest <;> omega
    refine ⟨hSign, fun y => ?_⟩
    obtain ⟨y', hMagnitude, hSame⟩ : ∃ y' : Finite, y'.magnitude = y.magnitude ∧ y'.negative = x.negative :=
      ⟨{ y with negative := x.negative }, rfl, rfl⟩
    have hNearest := h.nearest y'
    have hEven := h.even y'
    rw [distance_eq x, distance_eq y', if_pos hSign, if_pos (hSame.trans hSign), hMagnitude] at hNearest hEven
    rw [Ne, units_eq_iff hSame, hMagnitude] at hEven
    exact ⟨hNearest, hEven⟩
  · rintro ⟨hSign, h⟩
    have hOrigin := h zero
    rw [hZero] at hOrigin
    refine ⟨fun y => ?_, fun y => ?_⟩ <;> rw [distance_eq x, distance_eq y, if_pos hSign]
    · have hNearest := (h y).1
      split <;> omega
    · intro hTie hOther
      split at hTie
      · next hSame => exact (h y).2 hTie (mt (units_eq_iff (hSame.trans hSign.symm)).mpr hOther)
      · -- as near as zero, so zero is another nearest number
        exact hOrigin.2 (by omega) (by omega)

theorem covers_magnitude (x : Finite) : x.rounding.Covers x.magnitude := by
  have hBelow := x.below_pos
  have hStep := x.step_pos
  rw [covers_iff]
  split <;> omega

theorem not_covers_zero (hPos : 0 < x.magnitude) : ¬x.rounding.Covers 0 := by
  have hBelow := x.below_le
  have hStep : x.step ≤ x.magnitude := by
    rw [magnitude_eq] at hPos ⊢
    exact Nat.le_mul_of_pos_left _ (Nat.pos_of_mul_pos_right hPos)
  have := x.step_pos
  rw [covers_iff]
  split <;> omega

/-- Every grid of seventeen digits has a point in the interval. -/
theorem exists_covers {d : Nat} (hPos : 0 < d) (hFine : d * 10 ^ 16 ≤ x.magnitude) :
    ∃ k, x.rounding.Covers (k * d) := by
  have hInside {w : Nat} (hLow : 4 * x.magnitude < 4 * w + x.below) (hHigh : 4 * w < 4 * x.magnitude + 2 * x.step) :
      x.rounding.Covers w := by
    rw [covers_iff]
    split <;> omega
  have hMagnitude := x.magnitude_eq
  have hBelow := x.below_pos
  have hStep := x.step_pos
  have hRest := Nat.mod_lt x.magnitude hPos
  have hWhole : x.magnitude / d * d + x.magnitude % d = x.magnitude := Nat.div_add_mod' ..
  have hNext : (x.magnitude / d + 1) * d = x.magnitude / d * d + d := Nat.succ_mul ..
  -- where the point before is too far away, the one after is not
  obtain hLower | hUpper := Nat.lt_or_ge (4 * (x.magnitude % d)) x.below
  · exact ⟨x.magnitude / d, hInside (by omega) (by omega)⟩
  · refine ⟨x.magnitude / d + 1, hInside (by omega) ?_⟩
    by_cases hLeast : x.mantissa = 2 ^ 52 ∧ 0 < x.exponent
    · have hHalf : x.below = x.step := if_pos hLeast
      rw [hLeast.1] at hMagnitude
      omega
    · have hFull : x.below = 2 * x.step := if_neg hLeast
      have hMost : x.mantissa * x.step ≤ 2 ^ 53 * x.step := Nat.mul_le_mul_right _ (Nat.le_of_lt x.mantissa_lt_two_pow)
      omega

end Finite
end FieldRules.Double
