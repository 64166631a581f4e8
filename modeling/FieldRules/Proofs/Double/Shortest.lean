import FieldRules.Double.Text
import FieldRules.Proofs.Double.Interval
import FieldRules.Proofs.Double.Numeral
import Mathlib.Data.List.DropRight

/-!
# Shortest decimals of large numbers

The text of a large number spells an integer that is rounded to the number. None that is rounded to it has fewer digits
before its final zeros, and of those with as few digits none is closer.
-/
set_option autoImplicit false

namespace FieldRules

/-- All digits after the first `k` are zeros. -/
def HasDigits (k n : Nat) : Prop :=
  ∃ count zeros, n = count * 10 ^ zeros ∧ count < 10 ^ k

namespace HasDigits

variable {k n : Nat}

theorem mono {l : Nat} (h : HasDigits k n) (hLe : k ≤ l) : HasDigits l n := by
  obtain ⟨count, zeros, hValue, hCount⟩ := h
  exact ⟨count, zeros, hValue, Nat.lt_of_lt_of_le hCount (Nat.pow_le_pow_right (by decide) hLe)⟩

/-- The first number with more digits has only one digit that is not zero. -/
theorem of_le {count : Nat} (hPos : 0 < k) (hCount : count ≤ 10 ^ k) (zeros : Nat) :
    HasDigits k (count * 10 ^ zeros) := by
  obtain rfl | hLt := Nat.eq_or_lt_of_le hCount
  · refine ⟨1, k + zeros, ?_, Nat.one_lt_pow (Nat.ne_of_gt hPos) (by decide)⟩
    rw [Nat.one_mul, Nat.pow_add]
  · exact ⟨count, zeros, rfl, hLt⟩

theorem eq_zero (h : HasDigits 0 n) : n = 0 := by
  obtain ⟨count, zeros, rfl, hCount⟩ := h
  rw [Nat.lt_one_iff.mp hCount, Nat.zero_mul]

end HasDigits

namespace Double

/-- A search from zero up finds the first hit. -/
theorem exists_findSome?_range {α : Type} {f : Nat → Option α} {k n : Nat} (hLt : k < n) (hHit : f k ≠ none) :
    ∃ i < n, ∃ a, f i = some a ∧ (List.range n).findSome? f = some a ∧ ∀ j < i, f j = none := by
  obtain ⟨a, hFirst⟩ : ∃ a, (List.range n).findSome? f = some a := by
    refine Option.ne_none_iff_exists'.mp fun hNone => ?_
    exact hHit (List.findSome?_eq_none_iff.mp hNone k (List.mem_range.mpr hLt))
  obtain ⟨before, i, after, hRange, hi, hBefore⟩ := List.findSome?_eq_some_iff.mp hFirst
  have hOrdered : (before ++ i :: after).Pairwise (· < ·) := hRange ▸ List.pairwise_lt_range
  have hMem (j : Nat) : j < n ↔ j ∈ before ∨ j = i ∨ j ∈ after := by
    rw [← List.mem_range, hRange, List.mem_append, List.mem_cons]
  have hBound : i < n := (hMem i).mpr (.inr (.inl rfl))
  refine ⟨i, hBound, a, hi, hFirst, fun j hj => hBefore j ?_⟩
  obtain h | rfl | h := (hMem j).mp (Nat.lt_trans hj hBound)
  · exact h
  · exact absurd hj (Nat.lt_irrefl _)
  · have hAfter := (List.pairwise_cons.mp (List.pairwise_append.mp hOrdered).2.1).1 j h
    exact absurd hj (Nat.lt_asymm hAfter)

theorem mul_shiftLeft (a b k : Nat) : (a * b) <<< k = a * (b <<< k) := by
  rw [Nat.shiftLeft_eq, Nat.shiftLeft_eq, Nat.mul_assoc]

@[irreducible]
def unitsOfTens (e : Nat) : Nat :=
  10 ^ e <<< 1074

theorem mul_unitsOfTens (count e : Nat) : count * unitsOfTens e = (count * 10 ^ e) <<< 1074 := by
  unfold unitsOfTens
  exact (mul_shiftLeft ..).symm

theorem unitsOfTens_pos (e : Nat) : 0 < unitsOfTens e := by
  unfold unitsOfTens
  exact Nat.shiftLeft_pos_iff.mpr (Nat.pow_pos (by decide))

theorem unitsOfTens_add (a b : Nat) : unitsOfTens (a + b) = 10 ^ a * unitsOfTens b := by
  unfold unitsOfTens
  rw [Nat.pow_add]
  exact mul_shiftLeft ..

theorem unitsOfTens_mono {a b : Nat} (h : a ≤ b) : unitsOfTens a ≤ unitsOfTens b := by
  rw [← Nat.sub_add_cancel h, unitsOfTens_add]
  exact Nat.le_mul_of_pos_left _ (Nat.pow_pos (by decide))

theorem decimalRatio_natCast (count e : Nat) : decimalRatio count e = (count * 10 ^ e, 1) := by
  simp [decimalRatio]

namespace Finite

variable {x : Finite}

theorem mul_denominator (x : Finite) (e : Nat) : x.rounding.denominator * 10 ^ e = 4 * unitsOfTens e := by
  calc
    x.rounding.denominator * 10 ^ e = 10 ^ e * 4 <<< 1074 := Nat.mul_comm ..
    _ = (10 ^ e * 4) <<< 1074 := (mul_shiftLeft ..).symm
    _ = (4 * 10 ^ e) <<< 1074 := by rw [Nat.mul_comm]
    _ = 4 * unitsOfTens e := (mul_unitsOfTens ..).symm

theorem contains_iff (count e : Nat) :
    x.rounding.contains count e = true ↔ x.rounding.Covers (count * unitsOfTens e) := by
  have hScaled : count * 10 ^ e * x.rounding.denominator = 4 * (count * unitsOfTens e) := by
    rw [Nat.mul_assoc, Nat.mul_comm (10 ^ e), mul_denominator, Nat.mul_left_comm]
  simp only [Rounding.contains, decimalRatio_natCast, hScaled, Nat.mul_one, Rounding.Covers]
  split <;> simp only [decide_eq_true_eq]

/-- Of the points of a grid in the interval of a number one that is nearest to the number. -/
structure IsBest (x : Finite) (e count : Nat) : Prop where
  covers : x.rounding.Covers (count * unitsOfTens e)
  nearest : ∀ k, x.rounding.Covers (k * unitsOfTens e) →
    (x.magnitude - (count * unitsOfTens e : Nat) : Int).natAbs ≤ (x.magnitude - (k * unitsOfTens e : Nat) : Int).natAbs
  le : count ≤ x.magnitude / unitsOfTens e + 1

theorem div_unitsOfTens (x : Finite) (e : Nat) :
    x.magnitude % unitsOfTens e < unitsOfTens e ∧
      x.magnitude / unitsOfTens e * unitsOfTens e + x.magnitude % unitsOfTens e = x.magnitude ∧
      (x.magnitude / unitsOfTens e + 1) * unitsOfTens e =
        x.magnitude / unitsOfTens e * unitsOfTens e + unitsOfTens e :=
  ⟨Nat.mod_lt _ (unitsOfTens_pos e), Nat.div_add_mod' .., Nat.succ_mul ..⟩

/-- With a point of a grid the interval has the one of the two points around the number that is on the same side. -/
theorem covers_neighbour {e k : Nat} (hk : x.rounding.Covers (k * unitsOfTens e)) :
    k * unitsOfTens e ≤ x.magnitude / unitsOfTens e * unitsOfTens e ∧
        x.rounding.Covers (x.magnitude / unitsOfTens e * unitsOfTens e) ∨
      (x.magnitude / unitsOfTens e + 1) * unitsOfTens e ≤ k * unitsOfTens e ∧
        x.rounding.Covers ((x.magnitude / unitsOfTens e + 1) * unitsOfTens e) := by
  obtain ⟨hRest, hWhole, hNext⟩ := x.div_unitsOfTens e
  obtain hLt | hLe := Nat.lt_or_ge (x.magnitude / unitsOfTens e) k
  · have hAfter := Nat.mul_le_mul_right (unitsOfTens e) (Nat.succ_le_of_lt hLt)
    exact .inr ⟨hAfter, x.covers_magnitude.between hk (by omega) hAfter⟩
  · have hBefore := Nat.mul_le_mul_right (unitsOfTens e) hLe
    exact .inl ⟨hBefore, hk.between x.covers_magnitude hBefore (by omega)⟩

/-- The point before the number is best, unless the one after it is in the interval and nearer. -/
theorem isBest_before {e : Nat} (hCovers : x.rounding.Covers (x.magnitude / unitsOfTens e * unitsOfTens e))
    (hNearer : x.rounding.Covers ((x.magnitude / unitsOfTens e + 1) * unitsOfTens e) →
      2 * (x.magnitude % unitsOfTens e) ≤ unitsOfTens e) : x.IsBest e (x.magnitude / unitsOfTens e) := by
  refine ⟨hCovers, fun k hk => ?_, Nat.le_succ _⟩
  obtain ⟨hRest, hWhole, hNext⟩ := x.div_unitsOfTens e
  obtain ⟨hSide, -⟩ | ⟨hSide, hAfter⟩ := covers_neighbour hk
  · omega
  · have := hNearer hAfter
    omega

theorem isBest_after {e : Nat} (hCovers : x.rounding.Covers ((x.magnitude / unitsOfTens e + 1) * unitsOfTens e))
    (hNearer : x.rounding.Covers (x.magnitude / unitsOfTens e * unitsOfTens e) →
      unitsOfTens e ≤ 2 * (x.magnitude % unitsOfTens e)) : x.IsBest e (x.magnitude / unitsOfTens e + 1) := by
  refine ⟨hCovers, fun k hk => ?_, Nat.le_refl _⟩
  obtain ⟨hRest, hWhole, hNext⟩ := x.div_unitsOfTens e
  obtain ⟨hSide, hBefore⟩ | ⟨hSide, -⟩ := covers_neighbour hk
  · have := hNearer hBefore
    omega
  · omega

/-- A grid with a point in the interval gives a best one. -/
theorem onGrid?_spec (tie : Tie) (e : Nat) :
    match x.rounding.onGrid? tie e with
    | none => ∀ k, ¬x.rounding.Covers (k * unitsOfTens e)
    | some count => x.IsBest e count := by
  have hDivisor : x.rounding.denominator * (1 * 10 ^ e) = 4 * unitsOfTens e := by rw [Nat.one_mul, mul_denominator]
  have hValue : x.rounding.value * 1 = 4 * x.magnitude := Nat.mul_one _
  have hLower : 4 * x.magnitude / (4 * unitsOfTens e) = x.magnitude / unitsOfTens e :=
    Nat.mul_div_mul_left _ _ (by decide)
  have hRest : 4 * x.magnitude % (4 * unitsOfTens e) = 4 * (x.magnitude % unitsOfTens e) := Nat.mul_mod_mul_left ..
  have hContains (count : Nat) : x.rounding.contains count e = true ↔ x.rounding.Covers (count * unitsOfTens e) :=
    contains_iff count e
  simp only [Rounding.onGrid?, decimalRatio_natCast, hDivisor, hValue, hLower, hRest]
  generalize hFirst : (if 2 * (4 * (x.magnitude % unitsOfTens e)) = 4 * unitsOfTens e then _ else _ : Bool) = upperFirst
  have hNearer : if upperFirst = true then unitsOfTens e ≤ 2 * (x.magnitude % unitsOfTens e)
      else 2 * (x.magnitude % unitsOfTens e) ≤ unitsOfTens e := by
    split at hFirst
    · split <;> omega
    · simp only [← hFirst, decide_eq_true_eq]
      split <;> omega
  cases hBefore : x.rounding.contains (x.magnitude / unitsOfTens e) e with
  | false =>
    have hNotBefore := mt (hContains _).mpr (Bool.eq_false_iff.mp hBefore)
    cases hAfter : x.rounding.contains (x.magnitude / unitsOfTens e + 1) e with
    | false =>
      have hNotAfter := mt (hContains _).mpr (Bool.eq_false_iff.mp hAfter)
      intro k hk
      obtain ⟨-, h⟩ | ⟨-, h⟩ := covers_neighbour hk
      · exact hNotBefore h
      · exact hNotAfter h
    | true => exact isBest_after ((hContains _).mp hAfter) fun h => absurd h hNotBefore
  | true =>
    cases hAfter : x.rounding.contains (x.magnitude / unitsOfTens e + 1) e with
    | false =>
      have hNotAfter := mt (hContains _).mpr (Bool.eq_false_iff.mp hAfter)
      exact isBest_before ((hContains _).mp hBefore) fun h => absurd h hNotAfter
    | true =>
      change x.IsBest e (if upperFirst = true then _ else _)
      split at hNearer
      · next hUpper =>
        rw [if_pos hUpper]
        exact isBest_after ((hContains _).mp hAfter) fun _ => hNearer
      · next hLowerFirst =>
        rw [if_neg hLowerFirst]
        exact isBest_before ((hContains _).mp hBefore) fun _ => hNearer

/-- Next to each integer of `k` digits in the interval there is a point of the grid of `k` digits that is no further. -/
theorem exists_onGrid {k e n : Nat} (hLow : unitsOfTens (k + e - 1) ≤ x.magnitude) (hPos : 0 < k) (hn : HasDigits k n)
    (hCovers : x.rounding.Covers (n <<< 1074)) :
    ∃ count, x.rounding.Covers (count * unitsOfTens e) ∧
      (x.magnitude - (count * unitsOfTens e : Nat) : Int).natAbs ≤ (x.magnitude - (n <<< 1074 : Nat) : Int).natAbs := by
  obtain ⟨count, zeros, rfl, hCount⟩ := hn
  rw [← mul_unitsOfTens] at hCovers ⊢
  obtain hFine | hCoarse := Nat.lt_or_ge zeros e
  · -- the integer is smaller than the first one with as many positions as the number, which is on the grid
    have hFirst : unitsOfTens (k + e - 1) = 10 ^ (k - 1) * unitsOfTens e := by
      rw [← unitsOfTens_add, ← Nat.sub_add_comm hPos]
    have hLt : count * unitsOfTens zeros ≤ unitsOfTens (k + e - 1) := by
      calc
        count * unitsOfTens zeros ≤ 10 ^ k * unitsOfTens zeros := Nat.mul_le_mul_right _ (Nat.le_of_lt hCount)
        _ = unitsOfTens (k + zeros) := (unitsOfTens_add ..).symm
        _ ≤ unitsOfTens (k + e - 1) := unitsOfTens_mono (by omega)
    rw [hFirst] at hLt hLow
    exact ⟨_, hCovers.between x.covers_magnitude hLt hLow, by omega⟩
  · have hOnGrid : count * unitsOfTens zeros = count * 10 ^ (zeros - e) * unitsOfTens e := by
      rw [Nat.mul_assoc, ← unitsOfTens_add, Nat.sub_add_cancel hCoarse]
    exact ⟨_, hOnGrid ▸ hCovers, hOnGrid ▸ Nat.le_refl _⟩

/-- The count of positions before the point. -/
theorem exists_point (hWide : unitsOfTens 16 ≤ x.magnitude) :
    ∃ p : Nat, x.rounding.point = p ∧ 17 ≤ p ∧ unitsOfTens (p - 1) ≤ x.magnitude ∧ x.magnitude < unitsOfTens p := by
  have hUnit : x.rounding.denominator = 4 * unitsOfTens 0 := by rw [← mul_denominator, Nat.pow_zero, Nat.mul_one]
  have hValue : x.rounding.value = 4 * x.magnitude := rfl
  have hPos := unitsOfTens_pos 0
  have hBelow (k : Nat) : digitCount (x.rounding.value / x.rounding.denominator) ≤ k ↔ x.magnitude < unitsOfTens k := by
    rw [digitCount_le_iff, Nat.div_lt_iff_lt_mul (by omega), Nat.mul_comm, mul_denominator, hValue]
    omega
  have hWhole : x.rounding.denominator ≤ x.rounding.value := by
    have := unitsOfTens_mono (by decide : 0 ≤ 16)
    omega
  have hLong := mt (hBelow 16).mp (Nat.not_lt.mpr hWide)
  refine ⟨_, if_pos hWhole, Nat.lt_of_not_le hLong, Nat.not_lt.mp (mt (hBelow _).mpr ?_), (hBelow _).mp (Nat.le_refl _)⟩
  omega

def found? (x : Finite) (tie : Tie) (n : Nat) : Option (Nat × Int) :=
  let exponent := x.rounding.point - (n + 1 : Nat)
  (x.rounding.onGrid? tie exponent).map fun count => (count, exponent)

theorem found?_spec (tie : Tie) {p n : Nat} (hPoint : x.rounding.point = p) (hn : n + 1 ≤ p) :
    match x.found? tie n with
    | none => ∀ k, ¬x.rounding.Covers (k * unitsOfTens (p - (n + 1)))
    | some (count, e) => e = (p - (n + 1) : Nat) ∧ x.IsBest (p - (n + 1)) count := by
  have hExponent : x.rounding.point - (n + 1 : Nat) = (p - (n + 1) : Nat) := by omega
  have hGrid := x.onGrid?_spec tie (p - (n + 1))
  rw [found?, hExponent]
  generalize x.rounding.onGrid? tie (p - (n + 1) : Nat) = onGrid at hGrid ⊢
  cases onGrid with
  | none => exact hGrid
  | some count => exact ⟨rfl, hGrid⟩

/-- A best point of the grid of `k` digits, where no grid of fewer digits has a point in the interval. -/
structure IsCoarsest (x : Finite) (k e count : Nat) : Prop where
  digits_pos : 0 < k
  digits_le : k ≤ 17
  low : unitsOfTens (k + e - 1) ≤ x.magnitude
  best : x.IsBest e count
  count_le : count ≤ 10 ^ k
  first : ∀ k' e', 0 < k' → k' < k → k' + e' = k + e → ∀ count', ¬x.rounding.Covers (count' * unitsOfTens e')

/-- The search goes from coarse to fine and ends, since the grid of seventeen digits has a point. -/
theorem exists_shortest (tie : Tie) (hWide : unitsOfTens 16 ≤ x.magnitude) :
    ∃ k e count : Nat, x.rounding.shortest tie = (count, (e : Int)) ∧ x.IsCoarsest k e count := by
  obtain ⟨p, hPoint, hLong, hLow, hHigh⟩ := exists_point hWide
  have hFinest : x.found? tie 16 ≠ none := by
    intro hNone
    have hMissing := found?_spec tie hPoint hLong
    rw [hNone] at hMissing
    have hFine : unitsOfTens (p - 17) * 10 ^ 16 = unitsOfTens (p - 1) := by
      have hPlaces : p - 1 = 16 + (p - 17) := by omega
      rw [hPlaces, unitsOfTens_add, Nat.mul_comm]
    obtain ⟨k, hk⟩ := exists_covers (unitsOfTens_pos (p - 17)) (hFine ▸ hLow)
    exact hMissing k hk
  obtain ⟨n, hn, ⟨count, e⟩, hFound, hFirst, hBefore⟩ := exists_findSome?_range (by decide : 16 < 17) hFinest
  have hBest := found?_spec tie hPoint (by omega : n + 1 ≤ p)
  rw [hFound] at hBest
  obtain ⟨rfl, hBest⟩ := hBest
  have hPlaces : n + 1 + (p - (n + 1)) = p := by omega
  refine ⟨n + 1, p - (n + 1), count, ?_, Nat.succ_pos n, hn, hPlaces.symm ▸ hLow, hBest, ?_, ?_⟩
  · change ((List.range 17).findSome? (x.found? tie)).getD (0, 0) = _
    rw [hFirst]
    rfl
  · refine Nat.le_trans hBest.le (Nat.succ_le_of_lt ?_)
    rwa [Nat.div_lt_iff_lt_mul (unitsOfTens_pos _), ← unitsOfTens_add, hPlaces]
  · intro k' e' hPos hFewer hGrid
    have hMissing := found?_spec tie hPoint (by omega : k' - 1 + 1 ≤ p)
    rw [hBefore (k' - 1) (by omega)] at hMissing
    have hExponent : p - (k' - 1 + 1) = e' := by omega
    exact hExponent ▸ hMissing

/-- The integer is rounded to the number. No other such integer has fewer digits before its final zeros, and none with
as few is closer to the number. -/
structure IsShortest (x : Finite) (i : Int) : Prop where
  nearest : x.IsNearest i
  fewest : ∀ j k, x.IsNearest j → HasDigits k j.natAbs → HasDigits k i.natAbs
  closest : ∀ j, x.IsNearest j → (∀ k, HasDigits k i.natAbs → HasDigits k j.natAbs) → x.distance i ≤ x.distance j

theorem IsCoarsest.hasDigits {k e count : Nat} (h : x.IsCoarsest k e count) : HasDigits k (count * 10 ^ e) :=
  .of_le h.digits_pos h.count_le e

theorem IsCoarsest.isShortest {k e count : Nat} (h : x.IsCoarsest k e count) (hExponent : x.exponent < 2045) {i : Int}
    (hSign : x.negative = decide (i < 0)) (hValue : i.natAbs = count * 10 ^ e) : x.IsShortest i := by
  have hMagnitude : 0 < x.magnitude := Nat.lt_of_lt_of_le (unitsOfTens_pos _) h.low
  have hDigits : HasDigits k i.natAbs := hValue ▸ h.hasDigits
  refine ⟨?_, fun j l hj hFew => ?_, fun j hj hFew => ?_⟩
  · rw [isNearest_iff_covers hMagnitude hExponent, hValue, ← mul_unitsOfTens]
    exact ⟨hSign, h.best.covers⟩
  · obtain ⟨-, hCovers⟩ := (isNearest_iff_covers hMagnitude hExponent j).mp hj
    obtain hFewer | hMany := Nat.lt_or_ge l k
    · obtain rfl | hSome := Nat.eq_zero_or_pos l
      · rw [hFew.eq_zero, Nat.zero_shiftLeft] at hCovers
        exact absurd hCovers (not_covers_zero hMagnitude)
      · have hPlaces : l + (k + e - l) = k + e := by omega
        obtain ⟨count', hCovers', -⟩ := exists_onGrid (hPlaces.symm ▸ h.low) hSome hFew hCovers
        exact absurd hCovers' (h.first l _ hSome hFewer hPlaces count')
    · exact hDigits.mono hMany
  · obtain ⟨hSame, hCovers⟩ := (isNearest_iff_covers hMagnitude hExponent j).mp hj
    obtain ⟨count', hCovers', hCloser⟩ := exists_onGrid h.low h.digits_pos (hFew k hDigits) hCovers
    rw [distance_eq, distance_eq, if_pos hSign, if_pos hSame, hValue, ← mul_unitsOfTens]
    exact Nat.le_trans (h.best.nearest count' hCovers') hCloser

end Finite

theorem toDigits_mul_pow {n : Nat} (hPos : 0 < n) (e : Nat) :
    Nat.toDigits 10 (n * 10 ^ e) = Nat.toDigits 10 n ++ Decimal.zeros e := by
  induction e with
  | zero => simp [Decimal.zeros]
  | succ e ih =>
    have hTen : n * 10 ^ (e + 1) = 10 * (n * 10 ^ e) + 0 := by rw [Nat.pow_succ']; exact Nat.mul_left_comm ..
    have hMore : 0 < n * 10 ^ e := Nat.mul_pos hPos (Nat.pow_pos (by decide))
    rw [hTen, ← Nat.toDigits_append_toDigits (by decide) hMore (by decide), ih, List.append_assoc]
    exact congrArg _ List.replicate_succ'.symm

/-- The digits without their final zeros, written in full positions. -/
theorem positional_shortest {x : Finite} {tie : Tie} {count e : Nat} (hPos : 0 < count)
    (h : x.rounding.shortest tie = (count, (e : Int))) :
    (x.shortest tie).positional = Nat.toDigits 10 (count * 10 ^ e) := by
  obtain ⟨digits, hDigits⟩ : ∃ digits, digits = Nat.toDigits 10 count := ⟨_, rfl⟩
  have hSplit : digits.rdropWhile (· == '0') ++ digits.rtakeWhile (· == '0') = digits :=
    List.rdropWhile_append_rtakeWhile
  have hZeros : digits.rtakeWhile (· == '0') = Decimal.zeros (digits.rtakeWhile (· == '0')).length :=
    List.eq_replicate_of_mem fun c hc => by simpa using List.mem_rtakeWhile_imp hc
  have hNonempty : 0 < digits.length := by
    rw [hDigits]
    exact List.length_pos_of_ne_nil Nat.toDigits_ne_nil
  have hShortest : x.shortest tie = ⟨digits.rdropWhile (· == '0'), digits.length + e⟩ := by
    rw [Finite.shortest, h, hDigits]
    rfl
  rw [hShortest, toDigits_mul_pow hPos, ← hDigits]
  generalize digits.rdropWhile (· == '0') = kept at *
  generalize digits.rtakeWhile (· == '0') = dropped at *
  have hLength : kept.length + dropped.length = digits.length := by rw [← List.length_append, hSplit]
  have hPoint : ¬(digits.length + e : Int) ≤ 0 := by omega
  have hPlaces : (digits.length + e : Int).toNat = digits.length + e := by omega
  have hDropped : Decimal.zeros (dropped.length + e) = dropped ++ Decimal.zeros e := by
    rw [Decimal.zeros, List.replicate_add]
    exact congrArg (· ++ _) hZeros.symm
  have hFinal : digits.length + e - kept.length = dropped.length + e := by omega
  simp only [Decimal.positional, hPoint, hPlaces, if_false]
  rw [if_pos (by omega), hFinal, hDropped, ← List.append_assoc, hSplit]

theorem signed_toDigits (i : Int) : signed (decide (i < 0)) (Nat.toDigits 10 i.natAbs) = toString i := by
  rw [← String.toList_inj, Numeral.toList_toString, signed, String.toList_ofList]
  simp only [decide_eq_true_eq]

/-- The text of a number from `10 ^ 16` on is that of a shortest integer, with at most seventeen digits before its final
zeros. -/
theorem exists_plain {x : Finite} (hWide : unitsOfTens 16 ≤ x.magnitude) (hExponent : x.exponent < 2045) :
    ∃ i : Int, (finite x).plain = toString i ∧ x.IsShortest i ∧ HasDigits 17 i.natAbs := by
  obtain ⟨k, e, count, hFound, h⟩ := Finite.exists_shortest .up hWide
  have hMagnitude : 0 < x.magnitude := Nat.lt_of_lt_of_le (unitsOfTens_pos _) hWide
  have hCount : 0 < count := by
    refine Nat.pos_of_ne_zero ?_
    rintro rfl
    exact Finite.not_covers_zero hMagnitude (Nat.zero_mul _ ▸ h.best.covers)
  have hMantissa : x.mantissa ≠ 0 := by
    intro hZero
    rw [Finite.magnitude_eq, hZero, Nat.zero_mul] at hMagnitude
    exact Nat.lt_irrefl 0 hMagnitude
  have hDigits : 0 < count * 10 ^ e := Nat.mul_pos hCount (Nat.pow_pos (by decide))
  obtain ⟨i, hSign, hValue⟩ : ∃ i : Int, x.negative = decide (i < 0) ∧ i.natAbs = count * 10 ^ e := by
    generalize count * 10 ^ e = n at hDigits
    cases x.negative with
    | false => exact ⟨n, by simp, rfl⟩
    | true => exact ⟨-n, by simp; omega, Int.natAbs_neg _⟩
  refine ⟨i, ?_, h.isShortest hExponent hSign hValue, hValue ▸ h.hasDigits.mono h.digits_le⟩
  rw [plain, if_neg hMantissa, positional_shortest hCount hFound, ← signed_toDigits, hSign, hValue]

end Double
end FieldRules
