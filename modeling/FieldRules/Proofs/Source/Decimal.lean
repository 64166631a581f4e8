import FieldRules.Proofs.Double.Numeral
import FieldRules.Proofs.Text.Blank
import FieldRules.Source.Token.Reader
import Mathlib.Data.List.TakeWhile

/-!
# Decimal texts

The tokens of an integer that is written in decimal: a literal of its digits, behind a minus if it is negative.
-/
set_option autoImplicit false

namespace FieldRules.Source

def numeral (n : Nat) : Literal :=
  ⟨toString n, .int n⟩

section Digits

variable {s : List Char} (hDigits : ∀ c ∈ s, c.isDigit = true)

include hDigits

theorem takeWhile_of_digits {p : Char → Bool} (hp : ∀ c, c.isDigit = true → p c = true) : s.takeWhile p = s :=
  List.takeWhile_eq_self_iff.mpr fun c hc => hp c (hDigits c hc)

theorem quoted?_digits : quoted? s = none := by
  unfold quoted?
  split
  all_goals first
    | rfl
    | exact absurd (hDigits _ List.mem_cons_self) (by decide)

theorem float?_digits : float? s = none := by
  have hWhole : s.takeWhile isDigitOrGap = s := takeWhile_of_digits hDigits fun c hc => by simp [isDigitOrGap, hc]
  cases s with
  | nil => rfl
  | cons c rest =>
    have hMantissa : mantissa? (c :: rest) = some ((c :: rest, false), []) := by
      rw [mantissa?, hWhole]
      simp [hDigits c List.mem_cons_self]
    rw [float?, hMantissa]
    rfl

theorem based_digits : based s = (10, s) := by
  unfold based
  split
  all_goals first
    | rfl
    | exact absurd (hDigits _ (List.mem_cons_of_mem _ List.mem_cons_self)) (by decide)

theorem mapM_hexDigit?_digits : s.mapM hexDigit? = some (s.map Numeral.digitValue) := by
  induction s with
  | nil => rfl
  | cons c rest ih =>
    obtain ⟨hFirst, hRest⟩ := List.forall_mem_cons.mp hDigits
    have hDigit : hexDigit? c = some (Numeral.digitValue c) := if_pos hFirst
    rw [List.mapM_cons, hDigit, ih hRest]
    rfl

theorem int?_digits (hNonempty : s ≠ []) : int? s = some (.int (Numeral.value s), []) := by
  have hTaken : s.takeWhile (isDigitOf 10) = s := takeWhile_of_digits hDigits fun c hc => by simp [isDigitOf, hc]
  have hGap : ∀ c ∈ s, c ≠ '_' := by
    rintro c hc rfl
    exact absurd (hDigits _ hc) (by decide)
  have hKept : s.filter (· != '_') = s := List.filter_eq_self.mpr fun c hc => bne_iff_ne.mpr (hGap c hc)
  have hFit : (s.map Numeral.digitValue).any (10 ≤ ·) = false := by
    simp only [List.any_map, List.any_eq_false, Function.comp_apply, decide_eq_true_eq, Nat.not_le]
    exact fun c hc => Nat.lt_succ_of_le (Numeral.digitValue_le (hDigits c hc))
  have hHead : s.head? ≠ some '_' := fun h => hGap '_' (List.mem_of_head? h) rfl
  have hValues : (s.map Numeral.digitValue).isEmpty = false := by simp [hNonempty]
  have hValue : (s.map Numeral.digitValue).foldl (fun n d => 10 * n + d) 0 = Numeral.value s := List.foldl_map
  have hRest : skipSuffix [] = [] := rfl
  have hEnd : endsNumber [] = true := rfl
  rw [int?, based_digits hDigits]
  simp only [hTaken, hKept, mapM_hexDigit?_digits hDigits, Option.bind_eq_bind, Option.bind_some, List.drop_length,
    hRest, hEnd, hValues, hFit, hValue]
  simp [hHead]

end Digits

section Pieces

variable {spot : Spot} {c : Char} {rest next : List Char} {p : Piece}

theorem pieces_nil : pieces spot [] = .ok [] := by
  rw [pieces.eq_def]

theorem pieces_cons (h : piece? c rest = some (some p, next)) (hLength : next.length ≤ rest.length) :
    pieces spot (c :: rest) =
      (pieces (spot.after ((c :: rest).take (rest.length + 1 - next.length))) next).map ((spot, p) :: ·) := by
  -- opened by its equation only: to simplify would read on in the pieces behind
  rw [pieces.eq_def]
  dsimp only
  rw [h]
  exact dif_pos hLength

theorem comment?_eq_none (h : c ≠ '/') : comment? (c :: rest) = none := by
  unfold comment?
  split
  all_goals first
    | rfl
    | exact absurd (List.cons_eq_cons.mp ‹_›).1 h

theorem documentation?_eq_none (h : c ≠ '/') : documentation? (c :: rest) = none := by
  unfold documentation?
  split
  all_goals first
    | rfl
    | exact absurd (List.cons_eq_cons.mp ‹_›).1 h

end Pieces

section Leaves

def treesOfLeaves (leaves : List (Spot × Leaf)) : List Tree :=
  leaves.flatMap fun l => l.2.trees l.1

theorem foldl_push (ts done : List Tree) : ts.foldl Nesting.push ⟨[], done⟩ = ⟨[], ts.reverse ++ done⟩ := by
  induction ts generalizing done with
  | nil => rfl
  | cons t ts ih =>
    rw [List.foldl_cons, List.reverse_cons, List.append_assoc]
    exact ih (t :: done)

theorem foldlM_leaves (leaves : List (Spot × Leaf)) (done : List Tree) :
    (leaves.map fun l => (l.1, Piece.leaf l.2)).foldlM (fun n p => Nesting.step n p.1 p.2) ⟨[], done⟩ =
      .ok ⟨[], (treesOfLeaves leaves).reverse ++ done⟩ := by
  induction leaves generalizing done with
  | nil => rfl
  | cons l leaves ih =>
    have hStep : Nesting.step ⟨[], done⟩ l.1 (.leaf l.2) = .ok ⟨[], (l.2.trees l.1).reverse ++ done⟩ :=
      congrArg Except.ok (foldl_push _ done)
    rw [List.map_cons, List.foldlM_cons, hStep]
    have hTrees : treesOfLeaves (l :: leaves) = l.2.trees l.1 ++ treesOfLeaves leaves := rfl
    rw [hTrees, List.reverse_append, List.append_assoc]
    exact ih _

theorem trees_of_leaves {text : String} {c : Char} {rest : List Char} (hText : text.toList = c :: rest)
    (hStart : c ≠ '\uFEFF') (leaves : List (Spot × Leaf))
    (h : pieces .start (c :: rest) = .ok (leaves.map fun l => (l.1, Piece.leaf l.2))) :
    trees text = .ok (treesOfLeaves leaves) := by
  rw [trees, hText]
  split
  · next hHead => exact absurd (List.cons_eq_cons.mp hHead).1 hStart
  · rw [h]
    simp [bind, Except.bind, foldlM_leaves leaves []]

end Leaves

theorem ne_of_isDigit {c d : Char} (hDigit : c.isDigit = true) (h : d.isDigit = false) : c ≠ d := by
  rintro rfl
  rw [hDigit] at h
  cases h

section Tokens

variable (n : Nat) (i : Int) {c : Char} {rest : List Char}

theorem literal?_toDigits : literal? (Nat.toDigits 10 n) = some (numeral n, []) := by
  have hDigits : ∀ c ∈ Nat.toDigits 10 n, c.isDigit = true := fun _ => Numeral.isDigit_of_mem_toDigits
  have hSpelling : String.ofList (Nat.toDigits 10 n) = toString n := rfl
  rw [literal?, quoted?_digits hDigits, float?_digits hDigits, int?_digits hDigits Nat.toDigits_ne_nil,
    Numeral.value_toDigits]
  simp [hSpelling, numeral]

theorem piece?_toDigits (h : Nat.toDigits 10 n = c :: rest) :
    piece? c rest = some (some (.leaf (.literal (numeral n))), []) := by
  have hDigit : c.isDigit = true := Numeral.isDigit_of_mem_toDigits (by rw [h]; exact List.mem_cons_self)
  have hSlash : c ≠ '/' := ne_of_isDigit hDigit (by decide)
  have hGap : isGap c = false := by
    rw [isGap, Text.isBlank_eq_false_of_isDigit hDigit, Bool.false_or, Bool.or_eq_false_iff, beq_eq_false_iff_ne,
      beq_eq_false_iff_ne]
    exact ⟨ne_of_isDigit hDigit (by decide), ne_of_isDigit hDigit (by decide)⟩
  have hDelimiter : delimiter? c = none := by
    unfold delimiter?
    split
    all_goals first
      | rfl
      | exact absurd hDigit (by decide)
  rw [piece?, hGap, comment?_eq_none hSlash, hDelimiter, leaf?, documentation?_eq_none hSlash, ← h, literal?_toDigits]
  rfl

/-- A minus is a piece by itself, and joined to no digit. -/
theorem piece?_minus (hDigit : c.isDigit = true) :
    piece? '-' (c :: rest) = some (some (.leaf (.mark '-' false)), c :: rest) := by
  have hMarks : marks.all (fun d => !d.isDigit) = true := by decide +kernel
  have hMark : startsMark (c :: rest) = false := by
    have hNot : c ∉ marks := fun hMem => by
      have hOther := List.all_eq_true.mp hMarks c hMem
      rw [hDigit] at hOther
      cases hOther
    simp [startsMark, hNot]
  have hLiteral : literal? ('-' :: c :: rest) = none := rfl
  have hLeaf : leaf? ('-' :: c :: rest) = some (.mark '-' (startsMark (c :: rest)), c :: rest) := by
    rw [leaf?, hLiteral]
    rfl
  have hGap : isGap '-' = false := by decide
  rw [piece?, hGap, hLeaf, hMark]
  rfl

def decimalTrees : List Tree :=
  if i < 0 then [.mark .start '-' false, .literal ⟨1, 1⟩ (numeral i.natAbs)] else [.literal .start (numeral i.natAbs)]

theorem trees_toString : trees (toString i) = .ok (decimalTrees i) := by
  obtain ⟨c, rest, hDigits⟩ := List.exists_cons_of_ne_nil (Nat.toDigits_ne_nil (n := i.natAbs) (b := 10))
  have hDigit : c.isDigit = true := Numeral.isDigit_of_mem_toDigits (by rw [hDigits]; exact List.mem_cons_self)
  have hNumeral (spot : Spot) : pieces spot (c :: rest) = .ok [(spot, .leaf (.literal (numeral i.natAbs)))] := by
    rw [pieces_cons (piece?_toDigits i.natAbs hDigits) (Nat.zero_le _), pieces_nil]
    rfl
  have hText := Numeral.toList_toString i
  rw [hDigits] at hText
  rw [decimalTrees]
  split at hText
  · next hNegative =>
    have hPieces : pieces .start ('-' :: c :: rest) =
        .ok [(.start, .leaf (.mark '-' false)), (⟨1, 1⟩, .leaf (.literal (numeral i.natAbs)))] := by
      rw [pieces_cons (piece?_minus hDigit) (Nat.le_refl _), Nat.add_sub_cancel_left]
      exact congrArg (Except.map _) (hNumeral ⟨1, 1⟩)
    rw [if_pos hNegative]
    exact trees_of_leaves hText (by decide) [(.start, .mark '-' false), (⟨1, 1⟩, .literal (numeral i.natAbs))] hPieces
  · next hNegative =>
    have hStart : c ≠ '\uFEFF' := ne_of_isDigit hDigit (by decide)
    rw [if_neg hNegative]
    exact trees_of_leaves hText hStart [(.start, .literal (numeral i.natAbs))] (hNumeral .start)

end Tokens

end FieldRules.Source
