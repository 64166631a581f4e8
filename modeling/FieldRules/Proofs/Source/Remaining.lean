import FieldRules.Proofs.Source.Steps

/-!
# What readers leave

No reader of types and paths leaves more trees than it was given, and a path is read from one tree at least.
-/
set_option autoImplicit false

namespace FieldRules.Source

namespace Parsing

variable {α β : Type}

theorem exists_of_bind {p : Parsing α} {f : α → Parsing β} {s t : Input} {b : β} (h : (p >>= f) s = .ok (b, t)) :
    ∃ a u, p s = .ok (a, u) ∧ f a u = .ok (b, t) := by
  change (p s).bind _ = _ at h
  cases hp : p s with
  | error d =>
    rw [hp] at h
    cases h
  | ok r =>
    rw [hp] at h
    exact ⟨r.1, r.2, rfl, h⟩

theorem expected_ne_ok (message : String) (s : Input) (r : α × Input) : (expected message : Parsing α) s ≠ .ok r := by
  intro h
  rw [expected] at h
  split at h <;> cases h

/-- What is left after a reader is not more than what it was given. -/
def NonGrowing (p : Parsing α) : Prop :=
  ∀ s a t, p s = .ok (a, t) → t.trees.length ≤ s.trees.length

namespace NonGrowing

@[simp] theorem pure (a : α) : NonGrowing (Pure.pure a : Parsing α) := by
  rintro s _ t ⟨⟩
  exact Nat.le_refl _

@[simp] theorem expected (message : String) : NonGrowing (Parsing.expected message : Parsing α) :=
  fun s a t h => absurd h (expected_ne_ok message s (a, t))

@[simp] theorem rest : NonGrowing Parsing.rest := by
  rintro s _ t ⟨⟩
  exact Nat.le_refl _

@[simp] theorem peek : NonGrowing Parsing.peek := by
  rintro s _ t ⟨⟩
  exact Nat.le_refl _

@[simp] theorem isDone : NonGrowing Parsing.isDone := by
  rintro s _ t ⟨⟩
  exact Nat.le_refl _

@[simp] theorem advance (n : Nat) : NonGrowing (Parsing.advance n) := by
  rintro s _ t ⟨⟩
  exact List.length_drop ▸ Nat.sub_le _ n

@[simp] theorem bind {p : Parsing α} {f : α → Parsing β} (hp : NonGrowing p) (hf : ∀ a, NonGrowing (f a)) :
    NonGrowing (p >>= f) := by
  intro s b t h
  obtain ⟨a, u, hFirst, hThen⟩ := exists_of_bind h
  exact Nat.le_trans (hf a u b t hThen) (hp s a u hFirst)

@[simp] theorem map {p : Parsing α} (hp : NonGrowing p) (f : α → β) : NonGrowing (f <$> p) := by
  rw [← bind_pure_comp]
  exact bind hp fun a => pure (f a)

@[simp] theorem ite {c : Prop} [Decidable c] {p q : Parsing α} (hp : NonGrowing p) (hq : NonGrowing q) :
    NonGrowing (if c then p else q) := by
  split
  · exact hp
  · exact hq

@[simp] theorem inside (content : List Tree) (closing : Spot) (p : Parsing α) :
    NonGrowing (Parsing.inside content closing p) := by
  intro s a t h
  rw [Parsing.inside] at h
  split at h
  · cases h
  · split at h <;> cases h
    exact Nat.le_refl _

@[simp] theorem taken {p : Parsing α} (hp : NonGrowing p) : NonGrowing (Parsing.taken p) := by
  intro s a t h
  rw [Parsing.taken] at h
  split at h
  · next hRead =>
    cases h
    exact hp s _ _ hRead
  · cases h

@[simp] theorem acceptMarks (op : String) : NonGrowing (Parsing.acceptMarks op) := by
  rw [Parsing.acceptMarks, atMarks, bind_assoc]
  refine bind rest fun trees => ?_
  rw [pure_bind]
  split <;> simp

@[simp] theorem acceptKeyword (word : String) : NonGrowing (Parsing.acceptKeyword word) := by
  rw [Parsing.acceptKeyword, atKeyword, bind_assoc]
  refine bind peek fun next => ?_
  rw [pure_bind]
  split <;> simp

@[simp] theorem expectMarks (op : String) : NonGrowing (Parsing.expectMarks op) := by
  simp [Parsing.expectMarks]

@[simp] theorem expectKeyword (word : String) : NonGrowing (Parsing.expectKeyword word) := by
  simp [Parsing.expectKeyword]

@[simp] theorem atLifetime : NonGrowing Parsing.atLifetime := by
  refine bind peek fun next => ?_
  split <;> simp

@[simp] theorem acceptLifetime : NonGrowing Parsing.acceptLifetime := by
  simp [Parsing.acceptLifetime]

@[simp] theorem skipLiteral : NonGrowing Parsing.skipLiteral := by
  simp [Parsing.skipLiteral]

@[simp] theorem name : NonGrowing Parsing.name := by
  refine bind peek fun next => ?_
  split <;> simp

@[simp] theorem pathName : NonGrowing Parsing.pathName := by
  refine bind peek fun next => ?_
  split <;> simp

@[simp] theorem group (d : Delimiter) (message : String) : NonGrowing (Parsing.group d message) := by
  refine bind peek fun next => ?_
  split <;> simp

@[simp] theorem separated {p : Parsing α} (hp : NonGrowing p) (fuel : Nat) :
    NonGrowing (Parsing.separated fuel p) := by
  induction fuel with
  | zero => exact pure []
  | succ fuel ih =>
    refine bind isDone fun done => ite (pure []) (bind hp fun a => bind isDone fun last => ite (pure [a]) ?_)
    exact bind (expectMarks ",") fun _ => bind ih fun as => pure (a :: as)

end NonGrowing
end Parsing

open Parsing

/-- The readers of types with some fuel, which call each other. -/
structure ReadersNonGrowing (fuel : Nat) : Prop where
  typeExpr (plus : Bool) : NonGrowing (typeExpr fuel plus)
  namedType (plus : Bool) (t : Tree) : NonGrowing (namedType fuel plus t)
  parenType : NonGrowing (parenType fuel)
  sequenceType : NonGrowing (sequenceType fuel)
  pointerType : NonGrowing (pointerType fuel)
  functionType : NonGrowing (functionType fuel)
  result : NonGrowing (result fuel)
  pathType (plus : Bool) : NonGrowing (pathType fuel plus)
  lifetimes : NonGrowing (lifetimes fuel)
  bounds (plus : Bool) : NonGrowing (bounds fuel plus)
  bound : NonGrowing (bound fuel)
  path (inExpression : Bool) : NonGrowing (path fuel inExpression)
  segments (inExpression : Bool) : NonGrowing (segments fuel inExpression)
  segment (inExpression : Bool) : NonGrowing (segment fuel inExpression)
  arguments : NonGrowing (arguments fuel)
  argument : NonGrowing (argument fuel)

theorem readersNonGrowing (fuel : Nat) : ReadersNonGrowing fuel := by
  induction fuel with
  | zero =>
    constructor <;> intros <;>
      simp [typeExpr, namedType, parenType, sequenceType, pointerType, functionType, result, pathType, lifetimes,
        bounds, bound, path, segments, segment, arguments, argument]
  | succ fuel ih =>
    obtain ⟨hType, hNamed, hParen, hSequence, hPointer, hFunction, hResult, hPathType, hLifetimes, hBounds, hBound,
      hPath, hSegments, hSegment, hArguments, hArgument⟩ := ih
    constructor <;> intros <;>
      simp only [typeExpr, namedType, parenType, sequenceType, pointerType, functionType, result, pathType,
        lifetimes, bounds, bound, path, segments, segment, arguments, argument]
    all_goals
      repeat' first
        | split
        | refine .taken ?_
        | refine .bind ?_ fun _ => ?_
    all_goals
      simp [*]

namespace Parsing

variable {α β : Type}

/-- What is left after a reader is less than what it was given. -/
def Progresses (p : Parsing α) : Prop :=
  ∀ s a t, p s = .ok (a, t) → t.trees.length < s.trees.length

namespace Progresses

theorem expected (message : String) : Progresses (Parsing.expected message : Parsing α) :=
  fun s a t h => absurd h (expected_ne_ok message s (a, t))

theorem bind {p : Parsing α} {f : α → Parsing β} (hp : Progresses p) (hf : ∀ a, NonGrowing (f a)) :
    Progresses (p >>= f) := by
  intro s b t h
  obtain ⟨a, u, hFirst, hThen⟩ := exists_of_bind h
  exact Nat.lt_of_le_of_lt (hf a u b t hThen) (hp s a u hFirst)

theorem ofBind {p : Parsing α} {f : α → Parsing β} (hp : NonGrowing p) (hf : ∀ a, Progresses (f a)) :
    Progresses (p >>= f) := by
  intro s b t h
  obtain ⟨a, u, hFirst, hThen⟩ := exists_of_bind h
  exact Nat.lt_of_lt_of_le (hf a u b t hThen) (hp s a u hFirst)

theorem taken {p : Parsing α} (hp : Progresses p) : Progresses (Parsing.taken p) := by
  intro s a t h
  rw [Parsing.taken] at h
  split at h
  · next hRead =>
    cases h
    exact hp s _ _ hRead
  · cases h

theorem name : Progresses Parsing.name := by
  intro s _ t h
  rw [Parsing.name, peek_bind] at h
  cases hTrees : s.trees with
  | nil =>
    rw [hTrees] at h
    exact absurd h (expected_ne_ok _ s _)
  | cons tree rest =>
    rw [hTrees] at h
    cases tree with
    | name spot raw text =>
      simp only [List.head?_cons, ite_run] at h
      split at h
      · cases h
        simp [hTrees]
      · exact absurd h (expected_ne_ok _ s _)
    | mark | lifetime | literal | group => exact absurd h (expected_ne_ok _ s _)

theorem pathName : Progresses Parsing.pathName := by
  intro s a t h
  rw [Parsing.pathName, peek_bind] at h
  cases hTrees : s.trees with
  | nil =>
    rw [hTrees] at h
    exact hTrees ▸ name s a t h
  | cons tree rest =>
    rw [hTrees] at h
    cases tree with
    | name spot raw text =>
      simp only [List.head?_cons, ite_run] at h
      split at h
      · cases h
        simp [hTrees]
      · exact hTrees ▸ name s a t h
    | mark | lifetime | literal | group => exact hTrees ▸ name s a t h

end Progresses
end Parsing

section Paths

variable (fuel : Nat) (inExpression : Bool)

theorem segment_progresses : Progresses (segment fuel inExpression) := by
  cases fuel with
  | zero => exact .expected _
  | succ fuel =>
    rw [segment]
    refine .bind .pathName fun name => ?_
    have hArguments := (readersNonGrowing fuel).arguments
    repeat' first
      | split
      | refine .bind ?_ fun _ => ?_
    all_goals
      simp [hArguments]

theorem segments_progresses : Progresses (segments fuel inExpression) := by
  cases fuel with
  | zero => exact .expected _
  | succ fuel =>
    rw [segments]
    refine .bind (segment_progresses fuel inExpression) fun s => ?_
    have hSegments := (readersNonGrowing fuel).segments inExpression
    repeat' first
      | split
      | refine .bind ?_ fun _ => ?_
    all_goals
      simp [hSegments]

/-- A path takes the first name of its last part at least. -/
theorem path_progresses : Progresses (path fuel inExpression) := by
  cases fuel with
  | zero => exact .expected _
  | succ fuel =>
    have hPath := (readersNonGrowing fuel).path false
    have hType := (readersNonGrowing fuel).typeExpr true
    have hSegments := (segments_progresses fuel inExpression).taken
    have hEnd (p : List Segment × List Tree → Path) :
        Progresses (taken (segments fuel inExpression) >>= fun r => pure (p r)) :=
      hSegments.bind fun r => .pure (p r)
    rw [path]
    refine .ofBind (.acceptMarks "<") fun angle => ?_
    split
    · refine .ofBind hType fun _ => .ofBind (.acceptKeyword "as") fun behind => ?_
      split
      · refine .ofBind hPath fun p => .ofBind (.pure _) fun behind => .ofBind (.expectMarks ">") fun _ => ?_
        exact .ofBind .rest fun trees => .ofBind (.expectMarks "::") fun _ => hEnd _
      · refine .ofBind (.pure _) fun behind => .ofBind (.expectMarks ">") fun _ => ?_
        exact .ofBind .rest fun trees => .ofBind (.expectMarks "::") fun _ => hEnd _
    · refine .bind (.taken (.ofBind (.acceptMarks "::") fun rooted => ?_)) fun r => .pure _
      exact (segments_progresses fuel inExpression).bind fun ss => .pure (rooted, ss)

end Paths

end FieldRules.Source
