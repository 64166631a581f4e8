import FieldRules.Double.Reader
import FieldRules.Proofs.Double.Rounding
import FieldRules.Value.Basic

/-!
# Numerals

The digits of a natural number are read back as that number. The decimal text of an integer is read as the number that
the integer is rounded to.
-/
set_option autoImplicit false

namespace FieldRules

namespace Numeral

variable {s rest : List Char}

theorem valueFrom_append (start : Nat) (s t : List Char) :
    valueFrom start (s ++ t) = valueFrom (valueFrom start s) t :=
  List.foldl_append

theorem value_toDigits (n : Nat) : value (Nat.toDigits 10 n) = n :=
  Nat.ofDigitChars_toDigits (by decide) (by decide)

theorem valueFrom_replicate_zero (start k : Nat) : valueFrom start (List.replicate k '0') = start * 10 ^ k := by
  induction k generalizing start with
  | zero => simp [valueFrom]
  | succ k ih =>
    change valueFrom (10 * start + 0) (List.replicate k '0') = _
    rw [ih, Nat.add_zero, Nat.pow_succ', Nat.mul_comm 10 start, Nat.mul_assoc]

theorem digitValue_le {c : Char} (hDigit : c.isDigit = true) : digitValue c ≤ 9 := by
  simp only [Char.isDigit, Bool.and_eq_true, decide_eq_true_eq] at hDigit
  have : c.val.toNat ≤ 57 := UInt32.le_iff_toNat_le.mp hDigit.2
  simp only [digitValue, Char.toNat]
  have : '0'.val.toNat = 48 := rfl
  omega

theorem valueFrom_lt (start : Nat) (hDigits : ∀ c ∈ s, c.isDigit = true) :
    valueFrom start s < (start + 1) * 10 ^ s.length := by
  induction s generalizing start with
  | nil => simp [valueFrom]
  | cons c s ih =>
    have hRest := ih (10 * start + digitValue c) fun c hc => hDigits c (List.mem_cons_of_mem _ hc)
    have hLe := digitValue_le (hDigits c List.mem_cons_self)
    calc
      valueFrom (10 * start + digitValue c) s < (10 * start + digitValue c + 1) * 10 ^ s.length := hRest
      _ ≤ (start + 1) * 10 * 10 ^ s.length := Nat.mul_le_mul_right _ (by omega)
      _ = (start + 1) * 10 ^ (s.length + 1) := by rw [Nat.pow_succ', Nat.mul_assoc]

theorem value_lt (hDigits : ∀ c ∈ s, c.isDigit = true) : value s < 10 ^ s.length := by
  simpa [value] using valueFrom_lt 0 hDigits

theorem takeWhile_digits (hDigits : ∀ c ∈ s, c.isDigit = true) (hRest : ∀ c ∈ rest.head?, c.isDigit = false) :
    (s ++ rest).takeWhile Char.isDigit = s := by
  rw [List.takeWhile_append_of_pos hDigits]
  cases rest with
  | nil => simp
  | cons c rest => simp [hRest c rfl]

theorem dropWhile_digits (hDigits : ∀ c ∈ s, c.isDigit = true) (hRest : ∀ c ∈ rest.head?, c.isDigit = false) :
    (s ++ rest).dropWhile Char.isDigit = rest := by
  rw [List.dropWhile_append_of_pos hDigits]
  cases rest with
  | nil => rfl
  | cons c rest => simp [hRest c rfl]

/-- The decimal text of an integer is its digits, after a minus where it is negative. -/
theorem toList_toString (i : Int) :
    (toString i).toList = if i < 0 then '-' :: Nat.toDigits 10 i.natAbs else Nat.toDigits 10 i.natAbs := by
  cases i with
  | ofNat n => exact String.toList_ofList
  | negSucc n =>
    have hText : toString (Int.negSucc n) = "-" ++ String.ofList (Nat.toDigits 10 (n + 1)) := rfl
    have hSign : "-".toList = ['-'] := rfl
    rw [hText, String.toList_append, hSign, String.toList_ofList, if_pos (Int.negSucc_lt_zero n)]
    rfl

theorem isDigit_of_mem_toDigits {n : Nat} {c : Char} (h : c ∈ Nat.toDigits 10 n) : c.isDigit = true :=
  Nat.isDigit_of_mem_toDigits (by decide) (by decide) h

theorem splitSign_toString (i : Int) :
    splitSign (toString i).toList = (decide (i < 0), Nat.toDigits 10 i.natAbs) := by
  rw [toList_toString]
  split
  · next h => simp [splitSign, h]
  · next h =>
    -- a digit is no sign
    have hDigits : ∀ c ∈ Nat.toDigits 10 i.natAbs, c.isDigit = true := fun _ => isDigit_of_mem_toDigits
    rw [decide_eq_false h]
    generalize Nat.toDigits 10 i.natAbs = digits at hDigits
    unfold splitSign
    split
    · exact absurd (hDigits '-' List.mem_cons_self) (by decide)
    · exact absurd (hDigits '+' List.mem_cons_self) (by decide)
    · rfl

theorem unsigned?_toDigits (negative : Bool) (n : Nat) :
    unsigned? negative (Nat.toDigits 10 n) = some ⟨negative, n, 0⟩ := by
  have hDigits : ∀ c ∈ Nat.toDigits 10 n, c.isDigit = true := fun _ => isDigit_of_mem_toDigits
  have hTake : (Nat.toDigits 10 n ++ []).takeWhile Char.isDigit = _ := takeWhile_digits hDigits (by simp)
  have hDrop : (Nat.toDigits 10 n ++ []).dropWhile Char.isDigit = _ := dropWhile_digits hDigits (by simp)
  rw [List.append_nil] at hTake hDrop
  have hNonempty : (Nat.toDigits 10 n).isEmpty = false := by simp [Nat.toDigits_ne_nil]
  simp [unsigned?, hTake, hDrop, hNonempty, exponent?, valueFrom, value_toDigits]

/-- Digits spell none of the special values. -/
theorem ofList_map_toLower_ne {s : List Char} (hDigits : ∀ c ∈ s, c.isDigit = true) {word : String}
    (hWord : word.toList.all Char.isDigit = false) : (String.ofList (s.map Char.toLower) == word) = false := by
  have hSame : s.map Char.toLower = s := by
    refine (List.map_congr_left fun c hc => ?_).trans (List.map_id s)
    have hDigit := hDigits c hc
    simp only [Char.isDigit, Bool.and_eq_true, decide_eq_true_eq] at hDigit
    have hHigh : c.val.toNat ≤ 57 := UInt32.le_iff_toNat_le.mp hDigit.2
    refine dif_neg fun hUpper => ?_
    exact absurd (UInt32.le_iff_toNat_le.mp hUpper.1) (Nat.not_le.mpr (Nat.lt_of_le_of_lt hHigh (by decide)))
  rw [hSame, beq_eq_false_iff_ne]
  rintro rfl
  rw [String.toList_ofList, List.all_eq_true.mpr hDigits] at hWord
  cases hWord

end Numeral

theorem NumberText.read?_toString (i : Int) :
    NumberText.read? (toString i) = some (.decimal ⟨decide (i < 0), i.natAbs, 0⟩) := by
  have hDigits : ∀ c ∈ Nat.toDigits 10 i.natAbs, c.isDigit = true := fun _ => Numeral.isDigit_of_mem_toDigits
  have hInf := Numeral.ofList_map_toLower_ne hDigits (by decide : "inf".toList.all Char.isDigit = false)
  have hInfinity := Numeral.ofList_map_toLower_ne hDigits (by decide : "infinity".toList.all Char.isDigit = false)
  have hNan := Numeral.ofList_map_toLower_ne hDigits (by decide : "nan".toList.all Char.isDigit = false)
  rw [read?, Numeral.splitSign_toString]
  simp only [hInf, hInfinity, hNan, Numeral.unsigned?_toDigits]
  rfl

namespace Double

theorem digitCount_le_iff (n k : Nat) : digitCount n ≤ k ↔ n < 10 ^ k := by
  induction k generalizing n with
  | zero =>
    rw [digitCount]
    split <;> omega
  | succ k ih =>
    rw [digitCount, Nat.pow_succ]
    split
    · next hZero =>
      have hPos : 0 < 10 ^ k * 10 := Nat.mul_pos (Nat.pow_pos (by decide)) (by decide)
      exact iff_of_true (Nat.zero_le _) (hZero ▸ hPos)
    · rw [Nat.add_le_add_iff_right, ih, Nat.div_lt_iff_lt_mul (by decide)]

/-- The decimal text of an integer is read as the number that the integer is rounded to. -/
theorem read?_toString {i : Int} (h : i.natAbs ≤ 2 ^ 128) : read? (toString i) = some (ofInt i) := by
  have hDigits : digitCount i.natAbs ≤ 39 :=
    (digitCount_le_iff _ 39).mpr (Nat.lt_of_le_of_lt h (by decide))
  have hValue : ofDecimal (decide (i < 0)) i.natAbs 0 = ofInt i := by
    by_cases hZero : i = 0
    · subst hZero
      decide
    · have hNonzero : i.natAbs ≠ 0 := Int.natAbs_ne_zero.mpr hZero
      have hLow : ¬(digitCount i.natAbs : Int) + 0 < -330 := by omega
      have hHigh : ¬310 < (digitCount i.natAbs : Int) + 0 := by omega
      have hRatio : decimalRatio i.natAbs 0 = (i.natAbs, 1) := by simp [decimalRatio]
      simp only [ofDecimal, hNonzero, hLow, hHigh, hRatio, or_self, if_false, ofInt]
  rw [read?, NumberText.read?_toString]
  exact congrArg some hValue

end Double
end FieldRules
