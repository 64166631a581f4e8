import FieldRules.Proofs.Source.Form
import FieldRules.Source.Input

/-!
# Pieces of code

How code is cut without knowing what its expressions mean: statements at their ends, arms at theirs, conditions at
the signs between them, and arguments from the last one on. What was put together of pieces is cut into them again.
-/
set_option autoImplicit false

namespace FieldRules.Source

/-- Cuts trees behind each one that ends the piece it stands in. The trees behind the last end are left over. -/
def cut (ends : List Tree → Tree → Bool) (piece : List Tree) : List Tree → List (List Tree) × List Tree
  | [] => ([], piece)
  | t :: rest =>
    if ends piece t then
      let (pieces, left) := cut ends [] rest
      ((piece ++ [t]) :: pieces, left)
    else cut ends (piece ++ [t]) rest

section Cut

variable {ends : List Tree → Tree → Bool} {piece front rest : List Tree}

/-- No tree ends the piece before the front is over. -/
def Runs (ends : List Tree → Tree → Bool) (piece : List Tree) : List Tree → Prop
  | [] => True
  | t :: rest => ends piece t = false ∧ Runs ends (piece ++ [t]) rest

theorem Runs.cut_append (h : Runs ends piece front) (rest : List Tree) :
    cut ends piece (front ++ rest) = cut ends (piece ++ front) rest := by
  induction front generalizing piece with
  | nil => rw [List.nil_append, List.append_nil]
  | cons t front ih =>
    rw [List.cons_append, cut, if_neg (by simp [h.1]), ih h.2, List.append_assoc]
    rfl

/-- A piece ends with its last tree, and what comes behind it is cut on its own. -/
theorem Runs.cut_piece (h : Runs ends [] front) {last : Tree} (hLast : ends front last = true) (rest : List Tree) :
    cut ends [] (front ++ [last] ++ rest) = ((front ++ [last]) :: (cut ends [] rest).1, (cut ends [] rest).2) := by
  rw [List.append_assoc, h.cut_append, List.nil_append, List.singleton_append, cut, if_pos hLast]

theorem Runs.append (hFront : Runs ends piece front) (hRest : Runs ends (piece ++ front) rest) :
    Runs ends piece (front ++ rest) := by
  induction front generalizing piece with
  | nil => rwa [List.append_nil] at hRest
  | cons t front ih =>
    refine ⟨hFront.1, ih hFront.2 ?_⟩
    rwa [List.append_assoc, List.singleton_append]

theorem runs_of_forall (h : ∀ p, ∀ t ∈ front, ends p t = false) : Runs ends piece front := by
  induction front generalizing piece with
  | nil => trivial
  | cons t front ih =>
    exact ⟨h piece t List.mem_cons_self, ih fun p u hu => h p u (List.mem_cons_of_mem t hu)⟩

end Cut

/-- A statement ends at a semicolon, or at its block if it starts with `if`. -/
def endsStatement (statement : List Tree) (t : Tree) : Bool :=
  t.isMark ';' || (t.isGroup .brace && statement.head?.any (Tree.isKeyword "if"))

/-- The arm of a match ends at a comma or at a block. -/
def endsArm (_ : List Tree) (t : Tree) : Bool :=
  t.isMark ',' || t.isGroup .brace

/-- The parts of a condition between the signs for "and". -/
def conjuncts : List Tree → List (List Tree)
  | t :: u :: rest => if t.isMark '&' && u.isMark '&' then [] :: conjuncts rest else attach t (conjuncts (u :: rest))
  | [t] => [[t]]
  | [] => [[]]

def cutLast? : List Tree → Option (List Tree × List Tree)
  | [] => none
  | t :: rest =>
    match cutLast? rest with
    | some (front, last) => some (t :: front, last)
    | none => if t.isMark ',' then some ([], rest) else none

def isSeam (t : Tree) : Bool :=
  t.isMark ',' || t.isMark ';' || t.isMark '&' || t.isGroup .brace

/-- Trees that nothing is cut at, but for those between delimiters. -/
def IsSeamless (trees : List Tree) : Prop :=
  ∀ t ∈ trees, isSeam t = false

namespace IsSeamless

variable {trees : List Tree}

theorem append {earlier later : List Tree} (hEarlier : IsSeamless earlier) (hLater : IsSeamless later) :
    IsSeamless (earlier ++ later) := by
  intro t ht
  rcases List.mem_append.mp ht with ht | ht
  · exact hEarlier t ht
  · exact hLater t ht

theorem single {t : Tree} (h : isSeam t = false) : IsSeamless [t] := by
  intro u hu
  obtain rfl := List.mem_singleton.mp hu
  exact h

theorem rooted (names : List String) : IsSeamless (rooted names) := by
  intro t ht
  obtain ⟨name, -, ht⟩ := List.mem_flatMap.mp ht
  have hMarks : ∀ t ∈ punct "::", isSeam t = false := by decide
  rcases List.mem_append.mp ht with ht | ht
  · exact hMarks t ht
  · exact single rfl t ht

theorem runsStatement (h : IsSeamless trees) (piece : List Tree) : Runs endsStatement piece trees := by
  refine runs_of_forall fun p t ht => ?_
  have hSeam := h t ht
  simp only [isSeam, Bool.or_eq_false_iff] at hSeam
  simp [endsStatement, hSeam]

theorem runsArm (h : IsSeamless trees) (piece : List Tree) : Runs endsArm piece trees := by
  refine runs_of_forall fun p t ht => ?_
  have hSeam := h t ht
  simp only [isSeam, Bool.or_eq_false_iff] at hSeam
  simp [endsArm, hSeam]

theorem isMark_and (h : IsSeamless trees) {t : Tree} (ht : t ∈ trees) : t.isMark '&' = false := by
  have hSeam := h t ht
  simp only [isSeam, Bool.or_eq_false_iff] at hSeam
  exact hSeam.1.2

theorem conjuncts_eq (h : IsSeamless trees) (hNe : trees ≠ []) : conjuncts trees = [trees] := by
  induction trees with
  | nil => exact absurd rfl hNe
  | cons t rest ih =>
    cases rest with
    | nil => rfl
    | cons u rest =>
      have hRest : IsSeamless (u :: rest) := fun v hv => h v (List.mem_cons_of_mem t hv)
      rw [conjuncts, h.isMark_and List.mem_cons_self, Bool.false_and, if_neg Bool.false_ne_true,
        ih hRest (List.cons_ne_nil _ _)]
      rfl

theorem conjuncts_and (h : IsSeamless trees) (hNe : trees ≠ []) (rest : List Tree) :
    conjuncts (trees ++ punct "&&" ++ rest) = trees :: conjuncts rest := by
  induction trees with
  | nil => exact absurd rfl hNe
  | cons t later ih =>
    have hMark := h.isMark_and List.mem_cons_self
    cases later with
    | nil =>
      have hTrees : [t] ++ punct "&&" ++ rest = t :: .mark .start '&' true :: .mark .start '&' false :: rest := rfl
      rw [hTrees, conjuncts, hMark, Bool.false_and, if_neg Bool.false_ne_true, conjuncts]
      rfl
    | cons u later =>
      have hLater : IsSeamless (u :: later) := fun v hv => h v (List.mem_cons_of_mem t hv)
      have hNext := ih hLater (List.cons_ne_nil _ _)
      rw [List.cons_append, List.cons_append] at hNext
      rw [List.cons_append, List.cons_append, List.cons_append, List.cons_append, conjuncts, hMark, Bool.false_and,
        if_neg Bool.false_ne_true, hNext]
      rfl

end IsSeamless

namespace IsPart

variable {last : List Tree}

theorem cutLast?_eq_none (h : IsPart last) : cutLast? last = none := by
  induction last with
  | nil => rfl
  | cons t rest ih =>
    obtain ⟨ht, hRest⟩ := List.forall_mem_cons.mp h
    rw [cutLast?, ih hRest, ht]
    rfl

theorem cutLast?_append (h : IsPart last) (front : List Tree) :
    cutLast? (front ++ punct "," ++ last) = some (front, last) := by
  induction front with
  | nil =>
    have hTrees : [] ++ punct "," ++ last = .mark .start ',' false :: last := rfl
    rw [hTrees, cutLast?, h.cutLast?_eq_none]
    rfl
  | cons t front ih => rw [List.cons_append, List.cons_append, cutLast?, ih]

theorem parts_separate {given : List (List Tree)} (h : ∀ part ∈ given, IsPart part ∧ part ≠ []) :
    parts (separate given) = given := by
  induction given with
  | nil => rfl
  | cons part rest ih =>
    obtain ⟨⟨hPart, hNe⟩, hRest⟩ := List.forall_mem_cons.mp h
    cases rest with
    | nil => exact hPart.parts_eq hNe
    | cons next rest =>
      have hTrees : separate (part :: next :: rest) = part ++ punct "," ++ separate (next :: rest) := rfl
      rw [hTrees, hPart.parts_append, ih hRest]

theorem parts_terminate {given : List (List Tree)} (h : ∀ part ∈ given, IsPart part) :
    parts (terminate given) = given := by
  induction given with
  | nil => rfl
  | cons part rest ih =>
    obtain ⟨hPart, hRest⟩ := List.forall_mem_cons.mp h
    have hTrees : terminate (part :: rest) = part ++ punct "," ++ terminate rest := rfl
    rw [hTrees, hPart.parts_append, ih hRest]

end IsPart
end FieldRules.Source
