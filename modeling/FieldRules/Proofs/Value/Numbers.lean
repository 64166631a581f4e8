import FieldRules.Proofs.Double.Nearest
import FieldRules.Proofs.Double.Numeral
import FieldRules.Proofs.Text.Blank
import FieldRules.Rule.Verdict

/-!
# Comparison of integers

An integer is compared with a number, and with the decimal text of an integer, after it was rounded. The comparison is
exact below `2 ^ 53` and, with numbers, for the integers of no more than 53 significant bits. Beyond that it takes
neighbours for equal.
-/
set_option autoImplicit false

namespace FieldRules.Value

theorem natAbs_toInt_le (i : Int64) : i.toInt.natAbs ≤ 2 ^ 128 := by
  have hLow := i.le_toInt
  have hHigh := i.toInt_lt
  omega

theorem isFinite_ofInt64 (i : Int64) : (Double.ofInt i.toInt).isFinite = true :=
  Double.isFinite_ofInt (natAbs_toInt_le i)

theorem trim_toString (i : Int) : Text.trim (toString i) = toString i := by
  have hTrimmed : Text.IsTrimmed (toString i).toList := by
    refine Text.isTrimmed_of_forall fun c hc => ?_
    rw [Numeral.toList_toString] at hc
    have hDigit (hMem : c ∈ Nat.toDigits 10 i.natAbs) : Text.isBlank c = false :=
      Text.isBlank_eq_false_of_isDigit (Numeral.isDigit_of_mem_toDigits hMem)
    split at hc
    · obtain rfl | hMem := List.mem_cons.mp hc
      · decide
      · exact hDigit hMem
    · exact hDigit hc
  rw [Text.trim, hTrimmed.trimChars_eq, String.ofList_toList]

theorem textNumber?_toString {i : Int} (h : i.natAbs ≤ 2 ^ 128) :
    textNumber? (toString i) = some (Double.ofInt i) := by
  rw [textNumber?, trim_toString, Double.read?_toString h]

/-- The values that write an integer: the integer itself, the number that is its value, and its decimal text. -/
inductive Writes (i : Int64) : Value → Prop where
  | int : Writes i (int i)
  | float (x : Double.Finite) (h : x.IsExactly i.toInt) : Writes i (float (.finite x))
  | text : Writes i (text (toString i.toInt))

theorem looseEq_int_float (i : Int64) (x : Double.Finite) :
    (int i).looseEq (float (.finite x)) = true ↔ x.IsNearest i.toInt :=
  Double.same_ofInt_iff (isFinite_ofInt64 i) x

theorem looseEq_int_text (i j : Int64) :
    (int i).looseEq (text (toString j.toInt)) = true ↔
      ∃ x : Double.Finite, x.IsNearest i.toInt ∧ x.IsNearest j.toInt := by
  rw [looseEq, textEqualsNumber, textNumber?_toString (natAbs_toInt_le j)]
  simp only [Double.same_comm (Double.ofInt j.toInt)]
  exact Double.same_ofInt_ofInt_iff (isFinite_ofInt64 i) (isFinite_ofInt64 j)

theorem looseEq_int_float_exact_iff (i : Int64) :
    (∀ x : Double.Finite, (int i).looseEq (float (.finite x)) = true ↔ x.IsExactly i.toInt) ↔
      2 ^ (i.toInt.natAbs.log2 - 52) ∣ i.toInt.natAbs := by
  rw [← Double.exists_isExactly_iff (isFinite_ofInt64 i)]
  constructor
  · intro h
    obtain ⟨x, -, hNearest⟩ := Double.exists_isNearest (isFinite_ofInt64 i)
    exact ⟨x, (h x).mp ((looseEq_int_float i x).mpr hNearest)⟩
  · rintro ⟨y, hy⟩ x
    rw [looseEq_int_float, hy.isNearest_iff]

theorem eq_of_isNearest {i j : Int64} (hSmall : i.toInt.natAbs < 2 ^ 53 ∨ j.toInt.natAbs < 2 ^ 53)
    {x : Double.Finite} (hi : x.IsNearest i.toInt) (hj : x.IsNearest j.toInt) : i = j := by
  obtain hSmall | hSmall := hSmall
  · exact Int64.toInt_inj.mp (hi.eq_of_lt hj hSmall)
  · exact Int64.toInt_inj.mp (hj.eq_of_lt hi hSmall).symm

/-- A rule conditioned on an integer is not put in force by another one, as long as one of the two is small. -/
theorem conditionMet_int_iff {i j : Int64} {v : Value} (h : Writes j v)
    (hSmall : i.toInt.natAbs < 2 ^ 53 ∨ j.toInt.natAbs < 2 ^ 53) :
    Verdict.conditionMet (int i) v = true ↔ i = j := by
  cases h with
  | int =>
    change (j == i) = true ↔ _
    rw [beq_iff_eq, eq_comm]
  | float x hx =>
    change (Double.finite x).same (Double.ofInt i.toInt) = true ↔ _
    rw [Double.same_comm, Double.same_ofInt_iff (isFinite_ofInt64 i)]
    constructor
    · intro hi
      exact eq_of_isNearest hSmall hi (hx.isNearest_iff.mpr hx)
    · rintro rfl
      exact hx.isNearest_iff.mpr hx
  | text =>
    change (int i).looseEq (text (toString j.toInt)) = true ↔ _
    rw [looseEq_int_text]
    constructor
    · rintro ⟨x, hi, hj⟩
      exact eq_of_isNearest hSmall hi hj
    · rintro rfl
      obtain ⟨x, -, hNearest⟩ := Double.exists_isNearest (isFinite_ofInt64 i)
      exact ⟨x, hNearest, hNearest⟩

/-- An integer is compared after rounding: with a number, which has to be the one nearest to it, and with the decimal
text of an integer, which has to have the same nearest number. With numbers this is the comparison of the exact values
for the integers whose bits after the first 53 are zero; a rule conditioned on an integer never mistakes another one for
it, however that one is written, where one of the two is below `2 ^ 53`. -/
theorem looseEq_int_iff (i : Int64) :
    (∀ x : Double.Finite, (int i).looseEq (float (.finite x)) = true ↔ x.IsNearest i.toInt) ∧
    (∀ j : Int64, (int i).looseEq (text (toString j.toInt)) = true ↔
      ∃ x : Double.Finite, x.IsNearest i.toInt ∧ x.IsNearest j.toInt) ∧
    ((∀ x : Double.Finite, (int i).looseEq (float (.finite x)) = true ↔ x.IsExactly i.toInt) ↔
      2 ^ (i.toInt.natAbs.log2 - 52) ∣ i.toInt.natAbs) ∧
    ∀ (j : Int64) (v : Value), Writes j v → i.toInt.natAbs < 2 ^ 53 ∨ j.toInt.natAbs < 2 ^ 53 →
      (Verdict.conditionMet (int i) v = true ↔ i = j) :=
  ⟨looseEq_int_float i, looseEq_int_text i, looseEq_int_float_exact_iff i,
    fun _ _ hWrites hSmall => conditionMet_int_iff hWrites hSmall⟩

/-- The last integer below `2 ^ 53`, and the text of the next one. -/
theorem looseEq_int_last :
    Writes 9007199254740992 (text (toString (9007199254740992 : Int64).toInt)) ∧
      (9007199254740991 : Int64).toInt.natAbs < 2 ^ 53 ∧
      (Verdict.conditionMet (int 9007199254740991) (text (toString (9007199254740992 : Int64).toInt)) = true ↔
        (9007199254740991 : Int64) = 9007199254740992) :=
  ⟨.text, by decide, (looseEq_int_iff 9007199254740991).2.2.2 9007199254740992 _ .text (.inl (by decide))⟩

/-- The integer after `2 ^ 53` is no number. It is taken for the number before it, and for the text of that number. -/
theorem looseEq_int_neighbour :
    ¬((int 9007199254740993).looseEq (float (.finite ⟨false, 1 <<< 52, 1075, by decide, by decide, by decide⟩)) = true ↔
        (⟨false, 1 <<< 52, 1075, by decide, by decide, by decide⟩ : Double.Finite).IsExactly
          (9007199254740993 : Int64).toInt) ∧
      ¬((int 9007199254740993).looseEq (text (toString (9007199254740992 : Int64).toInt)) = true ↔
        (9007199254740993 : Int64) = 9007199254740992) := by
  constructor
  · decide +kernel
  · decide +kernel

end FieldRules.Value
