import FieldRules.Double.Basic
import Mathlib.Algebra.Group.Nat.Defs

/-!
# Rounding to binary64

Rounding gives a mantissa that the format has, so a number that is not too large is rounded to a finite one.
-/
set_option autoImplicit false

namespace FieldRules.Double

theorem le_roundHalfEven (n d : Nat) : n / d ≤ roundHalfEven n d := by
  simp only [roundHalfEven]
  split
  · exact Nat.le_refl _
  · split <;> omega

theorem roundHalfEven_le (n d : Nat) : roundHalfEven n d ≤ n / d + 1 := by
  simp only [roundHalfEven]
  split
  · omega
  · split <;> omega

/-- The mantissa has at most the asked bits, and exactly as many where the number was scaled down. -/
theorem roundToBits_normal {bits n d mantissa exponent : Nat} (hBits : 0 < bits)
    (h : roundToBits bits n d = (mantissa, exponent)) :
    mantissa < 2 ^ bits ∧ (exponent = 0 ∨ 2 ^ (bits - 1) ≤ mantissa) ∧
      exponent ≤ (n / d).log2 + 1 - bits + 1 := by
  obtain ⟨e, he⟩ : ∃ e, e = (n / d).log2 + 1 - bits := ⟨_, rfl⟩
  have hQuotient : n / (d <<< e) = n / d / 2 ^ e := by rw [Nat.shiftLeft_eq, Nat.div_div_eq_div_mul]
  have hHigh : n / d / 2 ^ e < 2 ^ bits := by
    rw [Nat.div_lt_iff_lt_mul (Nat.two_pow_pos e), ← Nat.pow_add]
    exact Nat.lt_of_lt_of_le Nat.lt_log2_self (Nat.pow_le_pow_right (by decide) (by omega))
  have hLow : e = 0 ∨ 2 ^ (bits - 1) ≤ n / d / 2 ^ e := by
    obtain hZero | hPos := Nat.eq_zero_or_pos e
    · exact .inl hZero
    · have hNonzero : n / d ≠ 0 := fun hZero => by simp [hZero] at he; omega
      rw [Nat.le_div_iff_mul_le (Nat.two_pow_pos e), ← Nat.pow_add]
      have hLog : bits - 1 + e = (n / d).log2 := by omega
      exact .inr (hLog ▸ Nat.log2_self_le hNonzero)
  have hFrom := le_roundHalfEven n (d <<< e)
  have hTo := roundHalfEven_le n (d <<< e)
  rw [hQuotient] at hFrom hTo
  have hPow : 2 ^ bits = 2 * 2 ^ (bits - 1) := by
    rw [← Nat.pow_succ', Nat.succ_eq_add_one, Nat.sub_add_cancel hBits]
  simp only [roundToBits, ← he, Nat.one_shiftLeft] at h
  split at h
  · next hLt =>
    obtain ⟨rfl, rfl⟩ := Prod.mk.inj h
    exact ⟨hLt, hLow.imp_right fun hLe => Nat.le_trans hLe hFrom, by omega⟩
  · -- the mantissa was rounded up to the next power of two
    obtain ⟨rfl, rfl⟩ := Prod.mk.inj h
    have := Nat.two_pow_pos (bits - 1)
    exact ⟨by omega, .inr (by omega), by omega⟩

theorem isFinite_ofUnits (negative : Bool) {n d : Nat} (h : (n / d).log2 < 2097) :
    (ofUnits negative n d).isFinite = true := by
  obtain ⟨⟨mantissa, exponent⟩, hRound⟩ : ∃ r, r = roundToBits 53 n d := ⟨_, rfl⟩
  obtain ⟨hMantissa, hNormal, hExponent⟩ := roundToBits_normal (by decide) hRound.symm
  have hParts : mantissa < 1 <<< 53 ∧ exponent ≤ 2045 ∧ (exponent = 0 ∨ 1 <<< 52 ≤ mantissa) :=
    ⟨by rwa [Nat.one_shiftLeft], by omega, by rwa [Nat.one_shiftLeft]⟩
  simp only [ofUnits, ← hRound, ofParts, dif_pos hParts, isFinite]

theorem log2_shiftLeft {n : Nat} (hNonzero : n ≠ 0) (k : Nat) : (n <<< k).log2 = n.log2 + k := by
  have hPos := Nat.two_pow_pos k
  rw [Nat.shiftLeft_eq, Nat.log2_eq_iff (Nat.mul_ne_zero hNonzero (Nat.ne_of_gt hPos))]
  constructor
  · rw [Nat.pow_add]
    exact Nat.mul_le_mul_right _ (Nat.log2_self_le hNonzero)
  · rw [Nat.add_right_comm, Nat.pow_add]
    exact Nat.mul_lt_mul_of_pos_right Nat.lt_log2_self hPos

theorem log2_shiftLeft_le (n k : Nat) : (n <<< k).log2 ≤ n.log2 + k := by
  obtain rfl | hNonzero := Decidable.em (n = 0)
  · simp
  · exact Nat.le_of_eq (log2_shiftLeft hNonzero k)

theorem log2_units_le {i : Int} (h : i.natAbs ≤ 2 ^ 128) : (i.natAbs <<< 1074).log2 ≤ 1202 := by
  have hLog : i.natAbs.log2 ≤ 128 := by
    obtain hZero | hPos := Nat.eq_zero_or_pos i.natAbs
    · simp [hZero]
    · rw [← Nat.lt_succ_iff, Nat.log2_lt (Nat.ne_of_gt hPos)]
      omega
  exact Nat.le_trans (log2_shiftLeft_le _ _) (by omega)

theorem isFinite_ofInt {i : Int} (h : i.natAbs ≤ 2 ^ 128) : (ofInt i).isFinite = true := by
  refine isFinite_ofUnits _ ?_
  rw [Nat.div_one]
  exact Nat.lt_of_le_of_lt (log2_units_le h) (by decide)

end FieldRules.Double
