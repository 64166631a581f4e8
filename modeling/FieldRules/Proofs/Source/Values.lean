import FieldRules.Proofs.Source.Paths

/-!
# Values as they are written

Which trees a literal, a negated one, a truth value, an array or a path is written with. The reader of expressions
takes just these trees where a list ends or its next comma stands.
-/
set_option autoImplicit false

namespace FieldRules.Source

open Parsing

/-- A value with the trees it is written with. -/
inductive WrittenValue : List Tree → Expr → Prop where
  | literal (spot : Spot) (l : Literal) : WrittenValue [.literal spot l] (.constant spot l.value.constant)
  | truth (spot : Spot) (b : Bool) : WrittenValue [.name spot false (toString b)] (.constant spot (.bool b))
  | minus (spot : Spot) (joint : Bool) (spot' : Spot) (l : Literal) :
      WrittenValue [.mark spot '-' joint, .literal spot' l] (.negation spot (.constant spot' l.value.constant))
  | array {opening closing : Spot} {content : List Tree} {items : List Expr}
      (h : Separated WrittenValue content items) :
      WrittenValue [.group opening closing .bracket content] (.array opening items)
  | path {t : Tree} {ts : List Tree} {p : Path} (h : WrittenPath true (t :: ts) p) :
      WrittenValue (t :: ts) (.path t.spot p)

namespace EndsItem

variable {rest : List Tree} (h : EndsItem rest)

include h

theorem closed : Closed rest := by
  cases h with
  | nil => exact .nil
  | comma spot joint rest => exact .comma spot joint rest

theorem operator? : operator? rest = none := by
  cases h with
  | nil => rfl
  | comma spot joint rest => rfl

theorem rangeOperator? : rangeOperator? rest = none := by
  cases h with
  | nil => rfl
  | comma spot joint rest => rfl

end EndsItem

section Productions

variable {fuel : Nat} {braces : Bool} {ts rest : List Tree} {closing start : Spot} {e : Expr}

theorem operations_end (h : EndsItem rest) :
    operations fuel braces start e ⟨rest, closing⟩ = .ok (e, ⟨rest, closing⟩) := by
  cases fuel with
  | zero => rfl
  | succ fuel =>
    have hAs : rest.head?.any (Tree.isKeyword "as") = false := h.closed.head?_any (fun _ _ => rfl) fun _ _ => rfl
    rw [operations, rest_bind]
    simp only [h.operator?, h.rangeOperator?]
    rw [acceptKeyword_bind, hAs]
    rfl

theorem trailers_end (h : EndsItem rest) :
    trailers fuel start e ⟨rest, closing⟩ = .ok (e, ⟨rest, closing⟩) := by
  cases fuel with
  | zero => rfl
  | succ fuel =>
    rw [trailers, peek_bind]
    cases h with
    | nil => rfl
    | comma spot joint rest => rfl

theorem expr_unary (h : unary fuel braces ⟨ts, closing⟩ = .ok (e, ⟨rest, closing⟩)) (hRest : EndsItem rest) :
    expr (fuel + 1) braces ⟨ts, closing⟩ = .ok (e, ⟨rest, closing⟩) := by
  rw [expr, spot_bind, bind_ok h]
  exact operations_end hRest

theorem startsWithMarks_singleton (c : Char) (t : Tree) (ts : List Tree) :
    startsWithMarks [c] (t :: ts) = t.isMark c := by
  cases t <;> rfl

theorem unary_atom {t : Tree} (hSign : ∀ c ∈ ['-', '&', '*', '!'], t.isMark c = false)
    (h : atom fuel braces ⟨t :: ts, closing⟩ = .ok (e, ⟨rest, closing⟩)) (hRest : EndsItem rest) :
    unary (fuel + 1) braces ⟨t :: ts, closing⟩ = .ok (e, ⟨rest, closing⟩) := by
  simp only [← startsWithMarks_singleton _ t ts] at hSign
  simp only [List.forall_mem_cons] at hSign
  obtain ⟨hMinus, hAnd, hStar, hNot, -⟩ := hSign
  rw [unary, spot_bind]
  simp only [acceptMarks_bind, ite_run, String.reduceToList, hMinus, hAnd, hStar, hNot, Bool.false_eq_true,
    if_false]
  rw [bind_ok h]
  exact trailers_end hRest

theorem unary_minus {spot : Spot} {joint : Bool} (h : unary fuel braces ⟨ts, closing⟩ = .ok (e, ⟨rest, closing⟩)) :
    unary (fuel + 1) braces ⟨.mark spot '-' joint :: ts, closing⟩ = .ok (.negation spot e, ⟨rest, closing⟩) := by
  rw [unary, spot_bind, acceptMarks_bind]
  exact bind_ok h _

theorem atom_literal (spot : Spot) (l : Literal) :
    atom (fuel + 1) braces ⟨.literal spot l :: rest, closing⟩ =
      .ok (.constant spot l.value.constant, ⟨rest, closing⟩) := by
  rw [atom, spot_bind, peek_bind]
  rfl

theorem atom_truth (spot : Spot) (b : Bool) :
    atom (fuel + 1) braces ⟨.name spot false (toString b) :: rest, closing⟩ =
      .ok (.constant spot (.bool b), ⟨rest, closing⟩) := by
  rw [atom, spot_bind, peek_bind]
  cases b with
  | true => rfl
  | false => rfl

theorem atom_array {opening inner : Spot} {content : List Tree}
    (h : arrayItems fuel opening ⟨content, inner⟩ = .ok (e, ⟨[], inner⟩)) :
    atom (fuel + 1) braces ⟨.group opening inner .bracket content :: rest, closing⟩ = .ok (e, ⟨rest, closing⟩) := by
  rw [atom, spot_bind, peek_bind]
  exact inside_ok h _

theorem pathForm_path {p : Path} (h : path fuel true ⟨ts, closing⟩ = .ok (p, ⟨rest, closing⟩))
    (hRest : EndsItem rest) :
    pathForm (fuel + 1) braces start ⟨ts, closing⟩ = .ok (.path start p, ⟨rest, closing⟩) := by
  have hMark : startsWithMarks "!".toList rest = false :=
    hRest.closed.startsWithMarks (by decide) (by decide) _
  have hBrace : rest.head?.any (Tree.isGroup .brace) = false :=
    hRest.closed.head?_any (fun _ _ => rfl) fun _ _ => rfl
  simp only [pathForm, bind_ok h, atMarks_bind, atGroup_bind, ite_run, hMark, hBrace, Bool.false_and,
    Bool.and_false, Bool.false_eq_true, if_false, pure_run]

theorem atom_path {t : Tree} {p : Path} (h : WrittenPath true (t :: ts) p)
    (hRead : path fuel true ⟨t :: ts ++ rest, closing⟩ = .ok (p, ⟨rest, closing⟩)) (hRest : EndsItem rest) :
    atom (fuel + 2) braces ⟨t :: ts ++ rest, closing⟩ = .ok (.path t.spot p, ⟨rest, closing⟩) := by
  rw [atom, spot_bind, peek_bind]
  cases h with
  | names h =>
    obtain ⟨spot, raw, text, behind, hHead, hName⟩ := h.head
    obtain ⟨rfl, rfl⟩ := List.cons_eq_cons.mp hHead
    have hTrue := isKeyword_eq_false hName "true" (by decide)
    have hFalse := isKeyword_eq_false hName "false" (by decide)
    have hBar : (Tree.name spot raw text).isMark '|' = false := rfl
    simp only [List.cons_append, List.head?_cons, ite_run, rest_bind, hTrue, hFalse, hBar, Bool.false_eq_true,
      if_false]
    rw [if_neg (by simp [startsWithMarks]), if_pos (by simp [hName])]
    exact pathForm_path hRead hRest
  | rooted h => exact pathForm_path hRead hRest

theorem arrayItems_reads {content : List Tree} {items : List Expr}
    (hItem : ReadsItems WrittenValue (expr fuel true) (sizeOfTrees content))
    (h : Separated WrittenValue content items) :
    arrayItems (fuel + 1) start ⟨content, closing⟩ = .ok (.array start items, ⟨[], closing⟩) := by
  cases h with
  | nil => rfl
  | @last t ts e h =>
    have hRead : expr fuel true ⟨t :: ts, closing⟩ = .ok (e, ⟨[], closing⟩) := by
      simpa using hItem h (Nat.le_refl _) .nil closing
    rw [arrayItems, isDone_bind, List.isEmpty_cons, if_neg (by decide), bind_ok hRead]
    rfl
  | @cons t ts rest e es h spot joint hRest =>
    simp only [sizeOfTrees_append, sizeOfTrees_cons] at hItem
    have hRead := hItem h (by rw [sizeOfTrees_cons]; omega) (.comma spot joint rest) closing
    have hLater : separatedToEnd (expr fuel true) ⟨rest, closing⟩ = .ok (es, ⟨[], closing⟩) := by
      refine separatedToEnd_reads ?_ hRest closing
      intro us e' hItem' hSize
      exact hItem hItem' (by omega)
    rw [arrayItems, isDone_bind, List.cons_append, List.isEmpty_cons, if_neg (by decide), ← List.cons_append,
      bind_ok hRead, acceptMarks_bind, if_neg (by simp [startsWithMarks]), if_neg (by decide), isDone_bind,
      List.isEmpty_cons, if_neg (by decide), acceptMarks_bind, if_pos (by rfl)]
    exact bind_ok hLater _

end Productions

theorem WrittenPath.not_isMark {inExpression : Bool} {t : Tree} {ts : List Tree} {p : Path}
    (h : WrittenPath inExpression (t :: ts) p) {c : Char} (hc : c ≠ ':') : t.isMark c = false := by
  rw [← startsWithMarks_singleton c t ts]
  obtain ⟨spot, raw, text, behind, hHead, -⟩ | ⟨spot, behind, hHead⟩ := h.head
  · rw [hHead]
    rfl
  · rw [hHead]
    simpa [startsWithMarks] using hc

theorem WrittenValue.reads {ts : List Tree} {e : Expr} (h : WrittenValue ts e) (fuel : Nat)
    (hFuel : 8 * sizeOfTrees ts + 6 ≤ fuel) {rest : List Tree} (hRest : EndsItem rest) (closing : Spot) :
    expr fuel true ⟨ts ++ rest, closing⟩ = .ok (e, ⟨rest, closing⟩) := by
  match fuel with
  | fuel + 6 =>
    refine expr_unary ?_ hRest
    cases h with
    | literal spot l => exact unary_atom (by simp [Tree.isMark]) (atom_literal spot l) hRest
    | truth spot b => exact unary_atom (by simp [Tree.isMark]) (atom_truth spot b) hRest
    | minus spot joint spot' l =>
      exact unary_minus (unary_atom (by simp [Tree.isMark]) (atom_literal spot' l) hRest)
    | @array opening inner content items h =>
      refine unary_atom (by simp [Tree.isMark]) (atom_array ?_) hRest
      simp only [sizeOfTrees_cons, sizeOfTrees_nil, Tree.size] at hFuel
      refine arrayItems_reads ?_ h
      intro ts e hWritten hSize rest hRest closing
      exact hWritten.reads (fuel + 2) (by omega) hRest closing
    | @path t ts p h =>
      have hSign : ∀ c ∈ ['-', '&', '*', '!'], c ≠ ':' := by simp
      refine unary_atom ?_ (atom_path h (h.reads (fuel + 2) (by omega) hRest.closed closing) hRest) hRest
      intro c hc
      exact h.not_isMark (hSign c hc)
termination_by fuel

theorem readsItems_expression (bound : Nat) : ReadsItems WrittenValue expression bound := by
  intro ts e h _ rest hRest closing
  rw [expression, rest_bind]
  refine h.reads _ ?_ hRest closing
  rw [fuelFor, sizeOfTrees_append]
  omega

end FieldRules.Source
