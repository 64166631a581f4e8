import FieldRules.Source.Expression

/-!
# Steps of readers

What the simplest readers do with the trees in front of them, and how readers of items with commas between them
follow from the readers of the items.
-/
set_option autoImplicit false

namespace FieldRules.Source

section Sizes

variable (t : Tree) (ts us : List Tree)

@[simp] theorem sizeOfTrees_nil : sizeOfTrees [] = 0 :=
  rfl

@[simp] theorem sizeOfTrees_cons : sizeOfTrees (t :: ts) = t.size + sizeOfTrees ts :=
  rfl

@[simp] theorem sizeOfTrees_append : sizeOfTrees (ts ++ us) = sizeOfTrees ts + sizeOfTrees us := by
  induction ts with
  | nil => simp
  | cons t ts ih => rw [List.cons_append, sizeOfTrees_cons, sizeOfTrees_cons, ih, Nat.add_assoc]

end Sizes

def Tree.isLifetime : Tree → Bool
  | lifetime _ _ => true
  | _ => false

namespace Parsing

variable {α β : Type}

theorem bind_ok {p : Parsing α} {s t : Input} {a : α} (h : p s = .ok (a, t)) (f : α → Parsing β) :
    (p >>= f) s = f a t := by
  change (p s).bind _ = _
  rw [h]
  rfl

section Steps

variable (s : Input)

@[simp] theorem pure_run (a : α) : (pure a : Parsing α) s = .ok (a, s) :=
  rfl

@[simp] theorem ite_run (c : Prop) [Decidable c] (p q : Parsing α) :
    (if c then p else q) s = if c then p s else q s := by
  split <;> rfl

@[simp] theorem rest_bind (f : List Tree → Parsing β) : (rest >>= f) s = f s.trees s :=
  rfl

@[simp] theorem peek_bind (f : Option Tree → Parsing β) : (peek >>= f) s = f s.trees.head? s :=
  rfl

@[simp] theorem spot_bind (f : Spot → Parsing β) :
    (spot >>= f) s = f ((s.trees.head?.map Tree.spot).getD s.closing) s :=
  rfl

@[simp] theorem isDone_bind (f : Bool → Parsing β) : (isDone >>= f) s = f s.trees.isEmpty s :=
  rfl

@[simp] theorem advance_bind (n : Nat) (f : Unit → Parsing β) :
    (advance n >>= f) s = f () { s with trees := s.trees.drop n } :=
  rfl

@[simp] theorem atMarks_bind (op : String) (f : Bool → Parsing β) :
    (atMarks op >>= f) s = f (startsWithMarks op.toList s.trees) s :=
  rfl

@[simp] theorem atKeyword_bind (word : String) (f : Bool → Parsing β) :
    (atKeyword word >>= f) s = f (s.trees.head?.any (Tree.isKeyword word)) s :=
  rfl

@[simp] theorem atGroup_bind (d : Delimiter) (f : Bool → Parsing β) :
    (atGroup d >>= f) s = f (s.trees.head?.any (Tree.isGroup d)) s :=
  rfl

@[simp] theorem atLifetime_bind (f : Bool → Parsing β) :
    (atLifetime >>= f) s = f (s.trees.head?.any Tree.isLifetime) s := by
  obtain ⟨trees, closing⟩ := s
  rw [atLifetime, bind_assoc, peek_bind]
  cases trees with
  | nil => rfl
  | cons t rest => cases t <;> rfl

@[simp] theorem acceptMarks_bind (op : String) (f : Bool → Parsing β) :
    (acceptMarks op >>= f) s =
      if startsWithMarks op.toList s.trees then f true { s with trees := s.trees.drop op.length }
      else f false s := by
  rw [acceptMarks, bind_assoc, atMarks_bind]
  split <;> rfl

@[simp] theorem acceptKeyword_bind (word : String) (f : Bool → Parsing β) :
    (acceptKeyword word >>= f) s =
      if s.trees.head?.any (Tree.isKeyword word) then f true { s with trees := s.trees.drop 1 }
      else f false s := by
  rw [acceptKeyword, bind_assoc, atKeyword_bind]
  split <;> rfl

theorem expectMarks_bind {op : String} (h : startsWithMarks op.toList s.trees = true) (f : Unit → Parsing β) :
    (expectMarks op >>= f) s = f () { s with trees := s.trees.drop op.length } := by
  rw [expectMarks, bind_assoc, acceptMarks_bind, if_pos h]
  rfl

end Steps

theorem taken_ok {p : Parsing α} {ts rest : List Tree} {closing : Spot} {a : α}
    (h : p ⟨ts ++ rest, closing⟩ = .ok (a, ⟨rest, closing⟩)) :
    taken p ⟨ts ++ rest, closing⟩ = .ok ((a, ts), ⟨rest, closing⟩) := by
  rw [taken, h]
  simp

theorem inside_ok {p : Parsing α} {content : List Tree} {closing : Spot} {a : α}
    (h : p ⟨content, closing⟩ = .ok (a, ⟨[], closing⟩)) (s : Input) :
    inside content closing p s = .ok (a, s) := by
  rw [inside, h]

end Parsing

/-- Items with commas between them, each of one tree or more. A comma may follow the last item. -/
inductive Separated {α : Type} (item : List Tree → α → Prop) : List Tree → List α → Prop where
  | nil : Separated item [] []
  | last {t : Tree} {ts : List Tree} {a : α} (h : item (t :: ts) a) : Separated item (t :: ts) [a]
  | cons {t : Tree} {ts rest : List Tree} {a : α} {as : List α} (h : item (t :: ts) a) (spot : Spot) (joint : Bool)
      (hRest : Separated item rest as) :
      Separated item (t :: ts ++ .mark spot ',' joint :: rest) (a :: as)

namespace Separated

variable {α : Type} {item : List Tree → α → Prop}

theorem and {trees : List Tree} {as : List α} (h : Separated item trees as) {P : α → Prop} (hAll : ∀ a ∈ as, P a) :
    Separated (fun ts a => item ts a ∧ P a) trees as := by
  induction h with
  | nil => exact .nil
  | last h => exact .last ⟨h, hAll _ List.mem_cons_self⟩
  | cons h spot joint hRest ih =>
    obtain ⟨hFirst, hLater⟩ := List.forall_mem_cons.mp hAll
    exact .cons ⟨h, hFirst⟩ spot joint (ih hLater)

theorem exists_trees {as : List α} (h : ∀ a ∈ as, ∃ t ts, item (t :: ts) a) : ∃ trees, Separated item trees as := by
  induction as with
  | nil => exact ⟨[], .nil⟩
  | cons a rest ih =>
    obtain ⟨⟨t, ts, hFirst⟩, hLater⟩ := List.forall_mem_cons.mp h
    obtain ⟨trees, hRest⟩ := ih hLater
    exact ⟨_, .cons hFirst .start false hRest⟩

end Separated

/-- Nothing follows, or a comma. -/
inductive EndsItem : List Tree → Prop where
  | nil : EndsItem []
  | comma (spot : Spot) (joint : Bool) (rest : List Tree) : EndsItem (.mark spot ',' joint :: rest)

namespace Parsing

variable {α : Type}

/-- A reader takes the trees of an item, if they are not more than a bound, wherever an item may end. -/
def ReadsItems (item : List Tree → α → Prop) (p : Parsing α) (bound : Nat) : Prop :=
  ∀ {ts : List Tree} {a : α}, item ts a → sizeOfTrees ts ≤ bound → ∀ {rest : List Tree}, EndsItem rest →
    ∀ closing, p ⟨ts ++ rest, closing⟩ = .ok (a, ⟨rest, closing⟩)

theorem separated_reads {item : List Tree → α → Prop} {p : Parsing α} {bound : Nat}
    (hItem : ReadsItems item p bound) {trees : List Tree} {as : List α} (h : Separated item trees as)
    (hBound : sizeOfTrees trees ≤ bound) {fuel : Nat} (hFuel : trees.length < fuel) (closing : Spot) :
    separated fuel p ⟨trees, closing⟩ = .ok (as, ⟨[], closing⟩) := by
  induction h generalizing fuel with
  | nil =>
    cases fuel with
    | zero => exact absurd hFuel (Nat.not_lt_zero _)
    | succ fuel => rfl
  | @last t ts a h =>
    cases fuel with
    | zero => exact absurd hFuel (Nat.not_lt_zero _)
    | succ fuel =>
      have hRead : p ⟨t :: ts, closing⟩ = .ok (a, ⟨[], closing⟩) := by
        simpa using hItem h hBound .nil closing
      rw [separated, isDone_bind, List.isEmpty_cons, if_neg (by decide), bind_ok hRead]
      rfl
  | @cons t ts rest a as h spot joint hRest ih =>
    cases fuel with
    | zero => exact absurd hFuel (Nat.not_lt_zero _)
    | succ fuel =>
      simp only [sizeOfTrees_append, sizeOfTrees_cons, List.length_append, List.length_cons] at hBound hFuel
      have hRead := hItem h (by rw [sizeOfTrees_cons]; omega) (.comma spot joint rest) closing
      have hLater : separated fuel p ⟨rest, closing⟩ = .ok (as, ⟨[], closing⟩) := ih (by omega) (by omega)
      rw [separated, isDone_bind, List.cons_append, List.isEmpty_cons, if_neg (by decide), ← List.cons_append,
        bind_ok hRead, isDone_bind, List.isEmpty_cons, if_neg (by decide), expectMarks_bind _ (by rfl)]
      exact bind_ok hLater _

theorem separatedToEnd_reads {item : List Tree → α → Prop} {p : Parsing α} {trees : List Tree}
    (hItem : ReadsItems item p (sizeOfTrees trees)) {as : List α} (h : Separated item trees as) (closing : Spot) :
    separatedToEnd p ⟨trees, closing⟩ = .ok (as, ⟨[], closing⟩) := by
  rw [separatedToEnd, rest_bind]
  exact separated_reads hItem h (Nat.le_refl _) (Nat.lt_succ_self _) closing

end Parsing
end FieldRules.Source
