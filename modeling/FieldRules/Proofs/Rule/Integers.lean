import FieldRules.Derive.Shape
import FieldRules.Proofs.Double.Shortest
import FieldRules.Proofs.Rule.Views

/-!
# Rules on integers

A range looks at an integer of any type after it was rounded, so it is exact for the integers whose bits after the first
53 are zero. A list of texts is compared with the decimal text of an integer of 64 bits, and beyond that with the text
of the number it is rounded to.
-/
set_option autoImplicit false

namespace FieldRules

/-- A field that holds an integer: of one of the integer types, or as a dynamic value. -/
inductive Typed.IsInteger : Typed → Int → Prop where
  | field {name : String} {kind : IntKind} (hKind : Derive.intKind? name = some kind) (n : Bounded kind) :
    IsInteger ⟨.int kind, n⟩ n.val
  | dynamic (i : Int64) : IsInteger ⟨.value, Value.int i⟩ i.toInt
  | present {shape : Shape} {content : shape.Carrier} {i : Int} (h : IsInteger ⟨shape, content⟩ i) :
    IsInteger ⟨.option shape, some content⟩ i
  | boxed {shape : Shape} {content : shape.Carrier} {i : Int} (h : IsInteger ⟨shape, content⟩ i) :
    IsInteger ⟨.boxed shape, ⟨content⟩⟩ i

theorem Derive.intKind?_bounds {name : String} {kind : IntKind} (h : intKind? name = some kind) :
    kind.least.natAbs ≤ 2 ^ 128 ∧ kind.greatest.natAbs ≤ 2 ^ 128 := by
  obtain ⟨before, after, hTable, -⟩ := List.lookup_eq_some_iff.mp h
  have hMem : (name, kind) ∈ before ++ (name, kind) :: after := List.mem_append_right _ List.mem_cons_self
  rw [← hTable] at hMem
  refine (?_ : ∀ entry : String × IntKind, entry ∈ _ →
    entry.2.least.natAbs ≤ 2 ^ 128 ∧ entry.2.greatest.natAbs ≤ 2 ^ 128) _ hMem
  decide

theorem Value.int_eq_ofInt (i : Int64) : int i = ofInt i.toInt := by
  have hHolds : (IntKind.signed 64).holds i.toInt = true := by
    rw [IntKind.holds_iff]
    exact ⟨i.le_toInt, Int.le_sub_one_of_lt i.toInt_lt⟩
  rw [ofInt, if_pos hHolds, Int64.ofInt_toInt]

namespace Typed.IsInteger

variable {t : Typed} {i : Int}

theorem isBuiltIn (h : t.IsInteger i) : t.shape.isBuiltIn = true := by
  induction h with
  | field | dynamic => rfl
  | present _ ih | boxed _ ih => exact ih

theorem toValue_eq (h : t.IsInteger i) : FieldValue.toValue t = .ofInt i := by
  induction h with
  | field => rfl
  | dynamic i => exact Value.int_eq_ofInt i
  | present _ ih | boxed _ ih => exact ih

theorem natAbs_le (h : t.IsInteger i) : i.natAbs ≤ 2 ^ 128 := by
  induction h with
  | field hKind n =>
    have hBounds := Derive.intKind?_bounds hKind
    have hHolds := (IntKind.holds_iff _ _).mp n.inRange
    omega
  | dynamic i =>
    have hLow := i.le_toInt
    have hHigh := i.toInt_lt
    omega
  | present _ ih | boxed _ ih => exact ih

end Typed.IsInteger

namespace Verdict

open Double

variable {t : Typed} {i : Int}

theorem range_of_isInteger (h : t.IsInteger i) (min max : Double) : range min max t = between min max (.ofInt i) := by
  have hNull : FieldValue.isNull (Value.ofInt i) = false := Value.isNull_ofInt i
  have hNumber : numberView (Value.ofInt i) = some (.ofInt i) := Option.or_self.trans (Value.number?_ofInt i)
  rw [range_eq (Typed.viewsAgree h.isBuiltIn), h.toValue_eq, range, hNull, hNumber, Bool.false_or]

theorem between_finite_iff (min max x : Finite) :
    between (.finite min) (.finite max) (.finite x) = true ↔ min.units ≤ x.units ∧ x.units ≤ max.units := by
  simp [between, atMost, position]

theorem range_of_isInteger_iff (h : t.IsInteger i) (min max : Finite) :
    range (.finite min) (.finite max) t = true ↔
      (min.units ≤ unitsOf i ∨ min.IsNearest i) ∧ (unitsOf i ≤ max.units ∨ max.IsNearest i) := by
  have hFinite := isFinite_ofInt h.natAbs_le
  obtain ⟨x, hRound, hNearest⟩ := exists_isNearest hFinite
  rw [range_of_isInteger h, hRound, between_finite_iff, hNearest.le_units_iff hFinite, hNearest.units_le_iff hFinite]

/-- Rounding moves an integer across a bound unless the integer is a number. -/
theorem range_exact_iff (h : t.IsInteger i) :
    (∀ min max : Finite, min.units ≤ max.units → (range (.finite min) (.finite max) t = true ↔
      min.units ≤ unitsOf i ∧ unitsOf i ≤ max.units)) ↔ 2 ^ (i.natAbs.log2 - 52) ∣ i.natAbs := by
  have hFinite := isFinite_ofInt h.natAbs_le
  rw [← exists_isExactly_iff hFinite]
  constructor
  · intro hExact
    -- the number that the integer is rounded to, as both bounds
    obtain ⟨x, -, hNearest⟩ := exists_isNearest hFinite
    have hKept := (range_of_isInteger_iff h x x).mpr ⟨.inr hNearest, .inr hNearest⟩
    obtain ⟨hLow, hHigh⟩ := (hExact x x (Int.le_refl _)).mp hKept
    exact ⟨x, Int.le_antisymm hLow hHigh⟩
  · rintro ⟨y, hy⟩ min max -
    have hBound (bound : Finite) (hNearest : bound.IsNearest i) : bound.units = unitsOf i :=
      hy.isNearest_iff.mp hNearest
    rw [range_of_isInteger_iff h, or_iff_left_of_imp fun hMin => Int.le_of_eq (hBound min hMin),
      or_iff_left_of_imp fun hMax => Int.le_of_eq (hBound max hMax).symm]

/-- A range rounds an integer first: it also accepts an integer beyond a bound that is the number nearest to it. So it
is exact, whatever the bounds, for the integers whose bits after the first 53 are zero and for no others. -/
theorem range_integer_iff (h : t.IsInteger i) :
    (∀ min max : Finite, range (.finite min) (.finite max) t = true ↔
      (min.units ≤ unitsOf i ∨ min.IsNearest i) ∧ (unitsOf i ≤ max.units ∨ max.IsNearest i)) ∧
    ((∀ min max : Finite, min.units ≤ max.units → (range (.finite min) (.finite max) t = true ↔
      min.units ≤ unitsOf i ∧ unitsOf i ≤ max.units)) ↔ 2 ^ (i.natAbs.log2 - 52) ∣ i.natAbs) :=
  ⟨range_of_isInteger_iff h, range_exact_iff h⟩

/-- The least integer of 128 bits is a number, so a range is exact on it. -/
theorem range_integer_least :
    Typed.IsInteger ⟨.int (.signed 128), ⟨(IntKind.signed 128).least, by decide⟩⟩ (IntKind.signed 128).least ∧
      ∀ min max : Finite, min.units ≤ max.units →
        (range (.finite min) (.finite max)
            (⟨.int (.signed 128), ⟨(IntKind.signed 128).least, by decide⟩⟩ : Typed) = true ↔
          min.units ≤ unitsOf (IntKind.signed 128).least ∧ unitsOf (IntKind.signed 128).least ≤ max.units) :=
  have hInteger := @Typed.IsInteger.field "i128" (.signed 128) rfl ⟨(IntKind.signed 128).least, by decide⟩
  ⟨hInteger, (range_integer_iff hInteger).2.mpr (by decide +kernel)⟩

/-- The integer after `2 ^ 53` is no number. A range that ends at `2 ^ 53` accepts it. -/
theorem range_integer_neighbour :
    Typed.IsInteger ⟨.int (.unsigned 64), ⟨9007199254740993, by decide⟩⟩ 9007199254740993 ∧
      ¬(range (zero false) (.finite ⟨false, 1 <<< 52, 1075, by decide, by decide, by decide⟩)
          (⟨.int (.unsigned 64), ⟨9007199254740993, by decide⟩⟩ : Typed) = true ↔
        0 ≤ unitsOf 9007199254740993 ∧
          unitsOf 9007199254740993 ≤ (⟨false, 1 <<< 52, 1075, by decide, by decide, by decide⟩ : Finite).units) :=
  ⟨@Typed.IsInteger.field "u64" (.unsigned 64) rfl ⟨9007199254740993, by decide⟩, by decide +kernel⟩

theorem allowedValues_of_isInteger (h : t.IsInteger i) (texts : List String) :
    allowedValues texts t = true ↔
      (if (IntKind.signed 64).holds i then toString i else (Double.ofInt i).plain) ∈ texts := by
  have hNull : FieldValue.isNull (Value.ofInt i) = false := Value.isNull_ofInt i
  have hDisplay : FieldValue.display? (Value.ofInt i) = _ := Value.display?_ofInt i
  rw [allowedValues_eq (Typed.viewsAgree h.isBuiltIn), h.toValue_eq, allowedValues, hNull, hDisplay, Bool.false_or]
  exact List.contains_iff_mem

/-- The text of an integer that 64 bits do not hold is the shortest text of the number nearest to it. -/
theorem exists_plain_ofInt (hLe : i.natAbs ≤ 2 ^ 128) (hWide : 2 ^ 63 ≤ i.natAbs) :
    ∃ (x : Finite) (m : Int), x.IsNearest i ∧ x.IsShortest m ∧ HasDigits 17 m.natAbs ∧
      (ofInt i).plain = toString m := by
  obtain ⟨x, hRound, hNearest⟩ := exists_isNearest (isFinite_ofInt hLe)
  have hLow : unitsOfTens 16 ≤ x.magnitude := by
    unfold unitsOfTens
    exact hNearest.le_magnitude (by decide) (by decide) (Nat.le_trans (by decide) hWide)
  obtain ⟨m, hText, hShortest, hDigits⟩ := exists_plain hLow (exponent_lt_of_ofInt hRound hLe)
  exact ⟨x, m, hNearest, hShortest, hDigits, hRound ▸ hText⟩

/-- A list of texts admits an integer of 64 bits exactly if the decimal text of the integer is in the list. Beyond 64
bits it has to be the text of the number nearest to the integer: that of a shortest integer that is rounded to this
number, with at most seventeen digits before its final zeros. -/
theorem allowedValues_integer_iff (h : t.IsInteger i) :
    (Int64.minValue.toInt ≤ i ∧ i ≤ Int64.maxValue.toInt → ∀ texts,
      allowedValues texts t = true ↔ toString i ∈ texts) ∧
    (¬(Int64.minValue.toInt ≤ i ∧ i ≤ Int64.maxValue.toInt) → ∃ (x : Finite) (m : Int), x.IsNearest i ∧ x.IsShortest m ∧
      HasDigits 17 m.natAbs ∧ ∀ texts, allowedValues texts t = true ↔ toString m ∈ texts) := by
  have hHolds : (IntKind.signed 64).holds i = true ↔ Int64.minValue.toInt ≤ i ∧ i ≤ Int64.maxValue.toInt :=
    IntKind.holds_iff ..
  constructor
  · intro hNarrow texts
    rw [allowedValues_of_isInteger h, if_pos (hHolds.mpr hNarrow)]
  · intro hWide
    have hLeast : Int64.minValue.toInt = -9223372036854775808 := rfl
    have hGreatest : Int64.maxValue.toInt = 9223372036854775807 := rfl
    obtain ⟨x, m, hNearest, hShortest, hDigits, hText⟩ := exists_plain_ofInt h.natAbs_le (by omega : 2 ^ 63 ≤ i.natAbs)
    refine ⟨x, m, hNearest, hShortest, hDigits, fun texts => ?_⟩
    rw [allowedValues_of_isInteger h, if_neg (mt hHolds.mp hWide), hText]

/-- The greatest integer of 128 bits, and the least one of 64. -/
theorem allowedValues_integer_ends :
    (¬(Int64.minValue.toInt ≤ (IntKind.unsigned 128).greatest ∧
        (IntKind.unsigned 128).greatest ≤ Int64.maxValue.toInt) ∧
      ∃ (x : Finite) (m : Int), x.IsNearest (IntKind.unsigned 128).greatest ∧ x.IsShortest m ∧
        HasDigits 17 m.natAbs ∧ ∀ texts, allowedValues texts
          (⟨.int (.unsigned 128), ⟨(IntKind.unsigned 128).greatest, by decide⟩⟩ : Typed) = true ↔ toString m ∈ texts) ∧
    ∀ texts, allowedValues texts (⟨.int (.signed 64), ⟨-9223372036854775808, by decide⟩⟩ : Typed) = true ↔
      toString (-9223372036854775808 : Int) ∈ texts :=
  ⟨⟨by decide, (allowedValues_integer_iff (@Typed.IsInteger.field "u128" (.unsigned 128) rfl
      ⟨(IntKind.unsigned 128).greatest, by decide⟩)).2 (by decide)⟩,
    (allowedValues_integer_iff (@Typed.IsInteger.field "i64" (.signed 64) rfl
      ⟨-9223372036854775808, by decide⟩)).1 (by decide)⟩

/-- The greatest integer of 64 bits without a sign is refused where the list has its decimal text. -/
theorem allowedValues_integer_refused :
    Typed.IsInteger ⟨.int (.unsigned 64), ⟨18446744073709551615, by decide⟩⟩ 18446744073709551615 ∧
      ¬(allowedValues ["18446744073709551615"]
          (⟨.int (.unsigned 64), ⟨18446744073709551615, by decide⟩⟩ : Typed) = true ↔
        toString (18446744073709551615 : Int) ∈ ["18446744073709551615"]) :=
  ⟨@Typed.IsInteger.field "u64" (.unsigned 64) rfl ⟨18446744073709551615, by decide⟩, by decide +kernel⟩

end Verdict
end FieldRules
