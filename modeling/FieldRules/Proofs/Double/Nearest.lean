import FieldRules.Proofs.Double.Rounding

/-!
# The nearest number

An integer is rounded to the number nearest to it, and of two numbers that are equally near to the one with the even
mantissa. So rounding an integer crosses no number, and it changes nothing exactly if the integer has no more than 53
significant bits.
-/
set_option autoImplicit false

namespace FieldRules.Double

/-- A multiple of `d` other than the two around `q * d` is a whole step further away. -/
theorem mul_apart (k q d : Nat) : k * d + d ≤ q * d ∨ k = q ∨ k = q + 1 ∨ q * d + 2 * d ≤ k * d := by
  obtain h | h | h | h : k + 1 ≤ q ∨ k = q ∨ k = q + 1 ∨ q + 2 ≤ k := by omega
  · exact .inl (by simpa [Nat.add_mul] using Nat.mul_le_mul_right d h)
  · exact .inr (.inl h)
  · exact .inr (.inr (.inl h))
  · exact .inr (.inr (.inr (by simpa [Nat.add_mul] using Nat.mul_le_mul_right d h)))

/-- Of all multiples of `d` the rounded quotient gives a nearest one. Only an odd one can be as near as an even one. -/
theorem roundHalfEven_nearest {d : Nat} (hPos : 0 < d) (n k : Nat) :
    ((roundHalfEven n d * d : Nat) - n : Int).natAbs ≤ ((k * d : Nat) - n : Int).natAbs ∧
      (((k * d : Nat) - n : Int).natAbs = ((roundHalfEven n d * d : Nat) - n : Int).natAbs →
        k = roundHalfEven n d ∨ roundHalfEven n d % 2 = 0 ∧ k % 2 = 1) := by
  have hRest := Nat.mod_lt n hPos
  have hWhole : n / d * d + n % d = n := Nat.div_add_mod' n d
  have hNext : (n / d + 1) * d = n / d * d + d := Nat.succ_mul ..
  have hApart := mul_apart k (n / d) d
  simp only [roundHalfEven]
  generalize n / d = q at *
  generalize n % d = r at *
  split
  · obtain h | rfl | rfl | h := hApart <;> omega
  split
  · obtain h | rfl | rfl | h := hApart <;> omega
  · obtain hEven | hOdd := Nat.mod_two_eq_zero_or_one q
    · rw [hEven, Nat.add_zero]
      obtain h | rfl | rfl | h := hApart <;> omega
    · rw [hOdd]
      obtain h | rfl | rfl | h := hApart <;> omega

/-- The value of a rounded count of units is its nearest multiple of the last bit. -/
theorem roundToBits_value {n m e : Nat} (h : roundToBits 53 n 1 = (m, e)) :
    m <<< e = roundHalfEven n (2 ^ (n.log2 - 52)) * 2 ^ (n.log2 - 52) ∧
      (roundHalfEven n (2 ^ (n.log2 - 52)) % 2 = 0 → m % 2 = 0) := by
  have hHigh : n / 2 ^ (n.log2 - 52) < 2 ^ 53 := by
    rw [Nat.div_lt_iff_lt_mul (Nat.two_pow_pos _), ← Nat.pow_add]
    exact Nat.lt_of_lt_of_le Nat.lt_log2_self (Nat.pow_le_pow_right (by decide) (by omega))
  have hLe := roundHalfEven_le n (2 ^ (n.log2 - 52))
  have hLast : n.log2 + 1 - 53 = n.log2 - 52 := by omega
  simp only [roundToBits, Nat.div_one, hLast, Nat.one_shiftLeft] at h
  split at h
  · obtain ⟨rfl, rfl⟩ := Prod.mk.inj h
    exact ⟨Nat.shiftLeft_eq .., id⟩
  · -- the mantissa was rounded up to the next power of two
    obtain ⟨rfl, rfl⟩ := Prod.mk.inj h
    have hFull : roundHalfEven n (2 ^ (n.log2 - 52)) = 2 ^ 53 := by omega
    rw [hFull, Nat.shiftLeft_eq, Nat.pow_succ]
    exact ⟨by omega, fun _ => by decide⟩

def unitsOf (i : Int) : Int :=
  i * Int.ofNat (1 <<< 1074)

namespace Finite

def IsExactly (x : Finite) (i : Int) : Prop :=
  x.units = unitsOf i

instance (x : Finite) (i : Int) : Decidable (x.IsExactly i) :=
  inferInstanceAs (Decidable (x.units = unitsOf i))

def distance (x : Finite) (i : Int) : Nat :=
  (x.units - unitsOf i).natAbs

/-- The number is nearest to the integer; where another one is equally near, it is the one with the even mantissa. -/
structure IsNearest (x : Finite) (i : Int) : Prop where
  nearest : ∀ y : Finite, x.distance i ≤ y.distance i
  even : ∀ y : Finite, y.distance i = x.distance i → y.units ≠ x.units → x.mantissa % 2 = 0

theorem mantissa_lt_two_pow (x : Finite) : x.mantissa < 2 ^ 53 := by
  rw [← Nat.one_shiftLeft]
  exact x.mantissa_lt

theorem normal_two_pow (x : Finite) : x.exponent = 0 ∨ 2 ^ 52 ≤ x.mantissa := by
  rw [← Nat.one_shiftLeft]
  exact x.normal

theorem magnitude_lt_of_exponent_lt {y : Finite} {e : Nat} (h : y.exponent < e) : y.magnitude < 2 ^ 52 * 2 ^ e := by
  calc
    y.magnitude = y.mantissa * 2 ^ y.exponent := Nat.shiftLeft_eq ..
    _ < 2 ^ 53 * 2 ^ y.exponent := Nat.mul_lt_mul_of_pos_right y.mantissa_lt_two_pow (Nat.two_pow_pos _)
    _ = 2 ^ (53 + y.exponent) := (Nat.pow_add ..).symm
    _ ≤ 2 ^ (52 + e) := Nat.pow_le_pow_right (by decide) (by omega)
    _ = 2 ^ 52 * 2 ^ e := Nat.pow_add ..

/-- A number is a multiple of a power of two, or it lies below all full mantissas that are scaled by that power. -/
theorem magnitude_onGrid (y : Finite) (e : Nat) :
    (∃ k, y.magnitude = k * 2 ^ e ∧ (k % 2 = 1 → y.mantissa % 2 = 1)) ∨ 0 < e ∧ y.magnitude < 2 ^ 52 * 2 ^ e := by
  obtain hLt | hLe := Nat.lt_or_ge y.exponent e
  · exact .inr ⟨Nat.zero_lt_of_lt hLt, magnitude_lt_of_exponent_lt hLt⟩
  · refine .inl ⟨y.mantissa * 2 ^ (y.exponent - e), ?_, fun hOdd => ?_⟩
    · rw [magnitude, Nat.shiftLeft_eq, Nat.mul_assoc, ← Nat.pow_add, Nat.sub_add_cancel hLe]
    · obtain hEven | hOdd' := Nat.mod_two_eq_zero_or_one y.mantissa
      · simp [Nat.mul_mod, hEven] at hOdd
      · exact hOdd'

theorem mantissa_eq_of_magnitude_eq {x y : Finite} (h : x.magnitude = y.magnitude) : x.mantissa = y.mantissa := by
  have hApart {x y : Finite} (hLt : x.exponent < y.exponent) : x.magnitude < y.magnitude := by
    have hFull : 2 ^ 52 ≤ y.mantissa := y.normal_two_pow.resolve_left (by omega)
    calc
      x.magnitude < 2 ^ 52 * 2 ^ y.exponent := magnitude_lt_of_exponent_lt hLt
      _ ≤ y.mantissa * 2 ^ y.exponent := Nat.mul_le_mul_right _ hFull
      _ = y.magnitude := (Nat.shiftLeft_eq ..).symm
  obtain hLt | hEq | hLt := Nat.lt_trichotomy x.exponent y.exponent
  · exact absurd h (Nat.ne_of_lt (hApart hLt))
  · rw [magnitude, magnitude, hEq, Nat.shiftLeft_eq, Nat.shiftLeft_eq] at h
    exact Nat.eq_of_mul_eq_mul_right (Nat.two_pow_pos _) h
  · exact absurd h.symm (Nat.ne_of_lt (hApart hLt))

theorem natAbs_units (x : Finite) : x.units.natAbs = x.magnitude := by
  unfold units
  split
  · exact Int.natAbs_neg _
  · rfl

end Finite

/-- No number is nearer to a count of units than the one it is rounded to, and only an odd mantissa is as near as an
even one. -/
theorem roundToBits_nearest {n m e : Nat} (h : roundToBits 53 n 1 = (m, e)) (y : Finite) :
    ((m <<< e : Nat) - n : Int).natAbs ≤ (y.magnitude - n : Int).natAbs ∧
      ((y.magnitude - n : Int).natAbs = ((m <<< e : Nat) - n : Int).natAbs →
        y.magnitude = m <<< e ∨ m % 2 = 0 ∧ y.mantissa % 2 = 1) := by
  obtain ⟨hValue, hEven⟩ := roundToBits_value h
  obtain ⟨last, hLast⟩ : ∃ last, last = n.log2 - 52 := ⟨_, rfl⟩
  rw [← hLast] at hValue hEven
  have hPos : 0 < 2 ^ last := Nat.two_pow_pos last
  rw [hValue]
  obtain ⟨k, hGrid, hOdd⟩ | ⟨hScaled, hBelow⟩ := y.magnitude_onGrid last
  · obtain ⟨hNearest, hTie⟩ := roundHalfEven_nearest hPos n k
    rw [hGrid]
    refine ⟨hNearest, fun hSame => (hTie hSame).imp (fun hk => by rw [hk]) fun hk => ⟨hEven hk.1, hOdd hk.2⟩⟩
  · -- the least full mantissa lies between
    have hLow : 2 ^ 52 * 2 ^ last ≤ n := by
      rw [← Nat.pow_add]
      have hNonzero : n ≠ 0 := by
        rintro rfl
        simp at hLast
        omega
      have : 52 + last = n.log2 := by omega
      exact this ▸ Nat.log2_self_le hNonzero
    have hNearest := (roundHalfEven_nearest hPos n (2 ^ 52)).1
    omega

theorem unitsOf_eq (i : Int) :
    unitsOf i = if i < 0 then -((i.natAbs <<< 1074 : Nat) : Int) else (i.natAbs <<< 1074 : Nat) := by
  have hUnits : ((i.natAbs <<< 1074 : Nat) : Int) = i.natAbs * Int.ofNat (1 <<< 1074) := by
    rw [Nat.shiftLeft_eq, Nat.one_shiftLeft]
    rfl
  rw [hUnits, unitsOf]
  generalize Int.ofNat (1 <<< 1074) = one
  split
  · rw [← Int.neg_mul]
    congr 1
    omega
  · congr 1
    omega

theorem ofInt_finite {i : Int} {x : Finite} (h : ofInt i = finite x) :
    x.negative = decide (i < 0) ∧ roundToBits 53 (i.natAbs <<< 1074) 1 = (x.mantissa, x.exponent) := by
  obtain ⟨⟨mantissa, exponent⟩, hRound⟩ : ∃ r, r = roundToBits 53 (i.natAbs <<< 1074) 1 := ⟨_, rfl⟩
  simp only [ofInt, ofRatio, ofUnits, ← hRound, ofParts] at h
  split at h
  · obtain rfl := finite.inj h
    exact ⟨rfl, hRound.symm⟩
  · cases h

theorem exponent_lt_of_ofInt {i : Int} {x : Finite} (h : ofInt i = finite x) (hLe : i.natAbs ≤ 2 ^ 128) :
    x.exponent < 2045 := by
  obtain ⟨-, -, hExponent⟩ := roundToBits_normal (by decide) (ofInt_finite h).2
  have hLog := log2_units_le hLe
  rw [Nat.div_one] at hExponent
  omega

/-- Rounding an integer gives a nearest number. A number that is as near has an odd mantissa where the given one has an
even one. -/
theorem distance_ofInt {i : Int} {x : Finite} (h : ofInt i = finite x) (y : Finite) :
    x.distance i ≤ y.distance i ∧
      (y.distance i = x.distance i → y.units = x.units ∨ x.mantissa % 2 = 0 ∧ y.mantissa % 2 = 1) := by
  obtain ⟨hSign, hRound⟩ := ofInt_finite h
  obtain ⟨hNearest, hTie⟩ := roundToBits_nearest hRound y
  -- a number of the other sign is no nearer than zero
  obtain ⟨hZero, hZeroTie⟩ := roundToBits_nearest hRound ⟨false, 0, 0, by decide, by decide, .inl rfl⟩
  have hMagnitude : x.mantissa <<< x.exponent = x.magnitude := rfl
  have hNone : (⟨false, 0, 0, by decide, by decide, .inl rfl⟩ : Finite).magnitude = 0 := rfl
  simp only [hMagnitude, hNone] at hNearest hTie hZero hZeroTie
  simp only [Finite.distance, Finite.units, unitsOf_eq, hSign]
  generalize i.natAbs <<< 1074 = n at *
  by_cases hNegative : i < 0 <;> cases y.negative <;> simp [hNegative] at * <;> omega

/-- The number that an integer is rounded to has the value of each number that is nearest to it. -/
theorem same_ofInt_iff {i : Int} (h : (ofInt i).isFinite = true) (x : Finite) :
    (ofInt i).same (finite x) = true ↔ x.IsNearest i := by
  obtain ⟨r, hRound⟩ : ∃ r, ofInt i = finite r := by
    cases hRound : ofInt i with
    | finite r => exact ⟨r, rfl⟩
    | nan | infinite => simp [hRound, isFinite] at h
  have hNearest := distance_ofInt hRound
  have hSame : (ofInt i).same (finite x) = true ↔ r.units = x.units := by simp [hRound, same, position]
  rw [hSame]
  constructor
  · intro hUnits
    have hDistance : x.distance i = r.distance i := by rw [Finite.distance, Finite.distance, hUnits]
    have hMantissa : r.mantissa = x.mantissa := Finite.mantissa_eq_of_magnitude_eq (by
      rw [← Finite.natAbs_units, ← Finite.natAbs_units, hUnits])
    refine ⟨fun y => hDistance ▸ (hNearest y).1, fun y hTie hOther => ?_⟩
    obtain hEq | hEven := (hNearest y).2 (hTie.trans hDistance)
    · exact absurd (hEq.trans hUnits) hOther
    · exact hMantissa ▸ hEven.1
  · intro hx
    have hTie : x.distance i = r.distance i := Nat.le_antisymm (hx.nearest r) (hNearest x).1
    obtain hEq | ⟨-, hOdd⟩ := (hNearest x).2 hTie
    · exact hEq.symm
    · refine Decidable.byContradiction fun hOther => ?_
      have hEven := hx.even r hTie.symm hOther
      omega

theorem exists_isNearest {i : Int} (h : (ofInt i).isFinite = true) :
    ∃ x : Finite, ofInt i = finite x ∧ x.IsNearest i := by
  cases hRound : ofInt i with
  | finite x =>
    have hSame : (ofInt i).same (finite x) = true := by rw [hRound, same_self_iff]; nofun
    exact ⟨x, rfl, (same_ofInt_iff h x).mp hSame⟩
  | nan | infinite => simp [hRound, isFinite] at h

theorem Finite.IsNearest.of_units_eq {i : Int} {x y : Finite} (hFinite : (ofInt i).isFinite = true)
    (h : x.IsNearest i) (hUnits : y.units = x.units) : y.IsNearest i := by
  rw [← same_ofInt_iff hFinite] at h ⊢
  rw [same, position, hUnits]
  exact h

theorem Finite.IsNearest.units_eq {i : Int} {x y : Finite} (h : (ofInt i).isFinite = true) (hx : x.IsNearest i)
    (hy : y.IsNearest i) : x.units = y.units := by
  obtain ⟨r, hRound, -⟩ := exists_isNearest h
  have hSame {z : Finite} (hz : z.IsNearest i) : r.units = z.units := by
    simpa [hRound, same, position] using (same_ofInt_iff h z).mpr hz
  exact (hSame hx).symm.trans (hSame hy)

/-- Two integers are rounded to the same value when some number is nearest to both. -/
theorem same_ofInt_ofInt_iff {i j : Int} (hi : (ofInt i).isFinite = true) (hj : (ofInt j).isFinite = true) :
    (ofInt i).same (ofInt j) = true ↔ ∃ x : Finite, x.IsNearest i ∧ x.IsNearest j := by
  obtain ⟨x, hRound, hx⟩ := exists_isNearest hj
  rw [hRound, same_ofInt_iff hi]
  constructor
  · intro h
    exact ⟨x, h, hx⟩
  · rintro ⟨y, hyi, hyj⟩
    have hUnits := hx.units_eq hj hyj
    rw [← same_ofInt_iff hi] at hyi ⊢
    simpa only [same, position, hUnits] using hyi

/-- A count is a multiple of its 53rd bit exactly if its first part is, however many zeros follow. -/
theorem lastBit_dvd_shiftLeft (n k : Nat) : 2 ^ ((n <<< k).log2 - 52) ∣ n <<< k ↔ 2 ^ (n.log2 - 52) ∣ n := by
  obtain rfl | hNonzero := Decidable.em (n = 0)
  · simp
  rw [log2_shiftLeft hNonzero, Nat.shiftLeft_eq]
  obtain hShort | hLong := Nat.le_or_ge n.log2 52
  · have hLow : 2 ^ (n.log2 + k - 52) ∣ n * 2 ^ k :=
      Nat.dvd_trans (Nat.pow_dvd_pow 2 (by omega)) (Nat.dvd_mul_left ..)
    simp [hLow, Nat.sub_eq_zero_of_le hShort]
  · rw [Nat.sub_add_comm hLong, Nat.pow_add, Nat.mul_dvd_mul_iff_right (Nat.two_pow_pos k)]

theorem lastBit_dvd_magnitude (x : Finite) : 2 ^ (x.magnitude.log2 - 52) ∣ x.magnitude := by
  obtain ⟨k, hGrid, -⟩ | ⟨hScaled, hBelow⟩ := x.magnitude_onGrid (x.magnitude.log2 - 52)
  · exact ⟨k, hGrid.trans (Nat.mul_comm ..)⟩
  · have hNonzero : x.magnitude ≠ 0 := fun hZero => by simp [hZero] at hScaled
    rw [← Nat.pow_add, Nat.add_sub_cancel' (by omega)] at hBelow
    exact absurd (Nat.log2_self_le hNonzero) (Nat.not_le.mpr hBelow)

/-- A multiple of its 53rd bit is not rounded. -/
theorem roundToBits_exact {n m e : Nat} (hLast : 2 ^ (n.log2 - 52) ∣ n) (h : roundToBits 53 n 1 = (m, e)) :
    m <<< e = n := by
  obtain ⟨k, hk⟩ := hLast
  have hNearest := (roundHalfEven_nearest (Nat.two_pow_pos (n.log2 - 52)) n k).1
  rw [Nat.mul_comm k, ← hk] at hNearest
  rw [(roundToBits_value h).1]
  omega

/-- An integer is the value of a number exactly if the bits after its first 53 are zero. -/
theorem exists_isExactly_iff {i : Int} (h : (ofInt i).isFinite = true) :
    (∃ x : Finite, x.IsExactly i) ↔ 2 ^ (i.natAbs.log2 - 52) ∣ i.natAbs := by
  rw [← lastBit_dvd_shiftLeft _ 1074]
  constructor
  · rintro ⟨x, hx⟩
    have hMagnitude : x.magnitude = i.natAbs <<< 1074 := by
      rw [← Finite.natAbs_units, hx, unitsOf_eq]
      split
      · exact Int.natAbs_neg _
      · rfl
    exact hMagnitude ▸ lastBit_dvd_magnitude x
  · intro hLast
    obtain ⟨x, hRound, -⟩ := exists_isNearest h
    obtain ⟨hSign, hParts⟩ := ofInt_finite hRound
    have hMagnitude : x.magnitude = i.natAbs <<< 1074 := roundToBits_exact hLast hParts
    refine ⟨x, ?_⟩
    rw [Finite.IsExactly, Finite.units, unitsOf_eq, hSign, hMagnitude]
    simp only [decide_eq_true_eq]

namespace Finite

variable {x y : Finite} {i : Int}

theorem IsNearest.le_units (h : x.IsNearest i) (hLe : y.units ≤ unitsOf i) : y.units ≤ x.units := by
  have hNearest := h.nearest y
  simp only [distance] at hNearest
  omega

theorem IsNearest.units_le (h : x.IsNearest i) (hLe : unitsOf i ≤ y.units) : x.units ≤ y.units := by
  have hNearest := h.nearest y
  simp only [distance] at hNearest
  omega

theorem distance_eq_zero_iff : x.distance i = 0 ↔ x.IsExactly i := by
  rw [distance, IsExactly]
  omega

/-- A bound is kept after rounding if the integer keeps it, or if the bound is what the integer is rounded to. -/
theorem IsNearest.le_units_iff (hFinite : (ofInt i).isFinite = true) (h : x.IsNearest i) :
    y.units ≤ x.units ↔ y.units ≤ unitsOf i ∨ y.IsNearest i := by
  constructor
  · intro hLe
    obtain hBroken | hKept := Int.lt_or_le (unitsOf i) y.units
    · exact .inr (h.of_units_eq hFinite (Int.le_antisymm hLe (h.units_le (Int.le_of_lt hBroken))))
    · exact .inl hKept
  · rintro (hKept | hy)
    · exact h.le_units hKept
    · exact Int.le_of_eq (hy.units_eq hFinite h)

theorem IsNearest.units_le_iff (hFinite : (ofInt i).isFinite = true) (h : x.IsNearest i) :
    x.units ≤ y.units ↔ unitsOf i ≤ y.units ∨ y.IsNearest i := by
  constructor
  · intro hLe
    obtain hBroken | hKept := Int.lt_or_le y.units (unitsOf i)
    · exact .inr (h.of_units_eq hFinite (Int.le_antisymm (h.le_units (Int.le_of_lt hBroken)) hLe))
    · exact .inl hKept
  · rintro (hKept | hy)
    · exact h.units_le hKept
    · exact Int.le_of_eq (h.units_eq hFinite hy)

/-- Where some number is the integer, that one is nearest and no other. -/
theorem IsExactly.isNearest_iff (h : y.IsExactly i) : x.IsNearest i ↔ x.IsExactly i := by
  constructor
  · intro hx
    have hNearest := hx.nearest y
    rw [distance_eq_zero_iff.mpr h] at hNearest
    exact distance_eq_zero_iff.mp (Nat.le_zero.mp hNearest)
  · intro hx
    have hNone := distance_eq_zero_iff.mpr hx
    refine ⟨fun z => hNone ▸ Nat.zero_le _, fun z hTie hOther => ?_⟩
    have hz := distance_eq_zero_iff.mp (hTie.trans hNone)
    exact absurd (hz.trans hx.symm) hOther

end Finite

theorem unitsOf_le_unitsOf_iff (i j : Int) : unitsOf i ≤ unitsOf j ↔ i ≤ j :=
  Int.mul_le_mul_iff_of_pos_right (by decide)

theorem unitsOf_neg (i : Int) : unitsOf (-i) = -unitsOf i :=
  Int.neg_mul ..

theorem unitsOf_natCast (n : Nat) : unitsOf n = (n <<< 1074 : Nat) := by
  rw [unitsOf_eq, if_neg (by omega)]
  rfl

theorem exists_isExactly {i : Int} (h : i.natAbs ≤ 2 ^ 53) : ∃ x : Finite, x.IsExactly i := by
  refine (exists_isExactly_iff (isFinite_ofInt (Nat.le_trans h (by decide)))).mpr ?_
  obtain hFull | hBelow := Nat.eq_or_lt_of_le h
  · rw [hFull]
    decide
  · have hShort : i.natAbs.log2 - 52 = 0 := by
      obtain hZero | hPos := Nat.eq_zero_or_pos i.natAbs
      · rw [hZero]
        decide
      · have := (Nat.log2_lt (Nat.ne_of_gt hPos)).mpr hBelow
        omega
    rw [hShort]
    exact Nat.one_dvd _

/-- Below `2 ^ 53` no two integers are rounded to one number. -/
theorem Finite.IsNearest.eq_of_lt {x : Finite} {i j : Int} (hi : x.IsNearest i) (hj : x.IsNearest j)
    (h : i.natAbs < 2 ^ 53) : i = j := by
  obtain ⟨y, hy⟩ := exists_isExactly (Nat.le_of_lt h)
  have hx : x.units = unitsOf i := hy.isNearest_iff.mp hi
  -- the integer before and the one after are numbers, which rounding does not cross
  obtain hLt | hEq | hLt := Int.lt_trichotomy i j
  · obtain ⟨z, hz⟩ := exists_isExactly (by omega : (i + 1).natAbs ≤ 2 ^ 53)
    have hCrossed : z.units ≤ x.units := hj.le_units (hz ▸ (unitsOf_le_unitsOf_iff (i + 1) j).mpr hLt)
    rw [hx, hz, unitsOf_le_unitsOf_iff] at hCrossed
    omega
  · exact hEq
  · obtain ⟨z, hz⟩ := exists_isExactly (by omega : (i - 1).natAbs ≤ 2 ^ 53)
    have hCrossed : x.units ≤ z.units := hj.units_le (hz ▸ (unitsOf_le_unitsOf_iff j (i - 1)).mpr (by omega))
    rw [hx, hz, unitsOf_le_unitsOf_iff] at hCrossed
    omega

namespace Finite

variable {x : Finite} {i : Int} {n : Nat}

/-- A number that is nearest to an integer is no smaller than the numbers below the integer. -/
theorem IsNearest.le_magnitude (h : x.IsNearest i) (hFinite : n ≤ 2 ^ 128) (hLast : 2 ^ (n.log2 - 52) ∣ n)
    (hLe : n ≤ i.natAbs) : n <<< 1074 ≤ x.magnitude := by
  have hExact {j : Int} (hj : j.natAbs = n) : ∃ y : Finite, y.IsExactly j :=
    (exists_isExactly_iff (isFinite_ofInt (hj ▸ hFinite))).mpr (hj ▸ hLast)
  rw [← natAbs_units x]
  obtain hNegative | hPositive := Int.lt_or_le i 0
  · obtain ⟨y, hy⟩ := hExact (Int.natAbs_neg n)
    have hUnits := h.units_le (hy ▸ (unitsOf_le_unitsOf_iff i (-n)).mpr (by omega))
    rw [hy, unitsOf_neg, unitsOf_natCast] at hUnits
    omega
  · obtain ⟨y, hy⟩ := hExact (Int.natAbs_natCast n)
    have hUnits := h.le_units (hy ▸ (unitsOf_le_unitsOf_iff n i).mpr (by omega))
    rw [hy, unitsOf_natCast] at hUnits
    omega

end Finite
end FieldRules.Double
