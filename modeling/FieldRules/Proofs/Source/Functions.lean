import FieldRules.Derive.Reading
import FieldRules.Proofs.Source.Remaining

/-!
# Functions as they are spelled

The function of a validator is a path that is written bare or in a text. The path that is read has the trees that
are written, but for a path behind a type in angle brackets: the type is dropped, and with it the brackets.
-/
set_option autoImplicit false

namespace FieldRules.Source

namespace Parsing

variable {α β : Type} {s t : Input}

def takenFrom (s t : Input) : List Tree :=
  s.trees.take (s.trees.length - t.trees.length)

theorem taken_eq_ok {p : Parsing α} {a : α} {ts : List Tree} (h : taken p s = .ok ((a, ts), t)) :
    p s = .ok (a, t) ∧ ts = takenFrom s t := by
  rw [taken] at h
  cases hp : p s with
  | error d =>
    rw [hp] at h
    cases h
  | ok r =>
    rw [hp] at h
    cases h
    exact ⟨rfl, rfl⟩

theorem takenFrom_cons {tree : Tree} {s : Input} (h : s.trees = tree :: t.trees) : takenFrom s t = [tree] := by
  rw [takenFrom, h, List.length_cons, Nat.add_sub_cancel_left]
  rfl

theorem takenFrom_nil (h : t.trees = []) : takenFrom s t = s.trees := by
  rw [takenFrom, h, List.length_nil, Nat.sub_zero, List.take_length]

theorem head?_takenFrom {p : Tree → Bool} (h : s.trees.head?.any p = false) : (takenFrom s t).head?.any p = false := by
  rw [takenFrom, List.head?_take]
  split
  · rfl
  · exact h

theorem inside_eq_ok {p : Parsing α} {content : List Tree} {closing : Spot} {a : α}
    (h : inside content closing p s = .ok (a, t)) :
    t = s ∧ ∃ left, p ⟨content, closing⟩ = .ok (a, left) ∧ left.trees = [] := by
  rw [inside] at h
  cases hp : p ⟨content, closing⟩ with
  | error d =>
    rw [hp] at h
    cases h
  | ok r =>
    obtain ⟨b, left⟩ := r
    rw [hp] at h
    cases hLeft : left.trees with
    | nil =>
      simp only [hLeft, Except.ok.injEq, Prod.mk.injEq] at h
      obtain ⟨rfl, rfl⟩ := h
      exact ⟨rfl, left, rfl, hLeft⟩
    | cons tree rest =>
      simp only [hLeft] at h
      cases h

theorem run_eq_ok {p : Parsing α} {ts : List Tree} {closing : Spot} {a : α} (h : run p ts closing = .ok a) :
    ∃ left, p ⟨ts, closing⟩ = .ok (a, left) ∧ left.trees = [] := by
  rw [run] at h
  cases hp : p ⟨ts, closing⟩ with
  | error d =>
    rw [hp] at h
    cases h
  | ok r =>
    obtain ⟨b, left⟩ := r
    rw [hp] at h
    cases hLeft : left.trees with
    | nil =>
      simp only [hLeft, Except.ok.injEq] at h
      subst h
      exact ⟨left, rfl, hLeft⟩
    | cons tree rest =>
      simp only [hLeft] at h
      cases h

theorem expectMarks_eq_ok {op : String} {f : Unit → Parsing β} {b : β} (h : (expectMarks op >>= f) s = .ok (b, t)) :
    startsWithMarks op.toList s.trees = true ∧ f () { s with trees := s.trees.drop op.length } = .ok (b, t) := by
  cases hMarks : startsWithMarks op.toList s.trees with
  | true =>
    rw [expectMarks_bind s hMarks] at h
    exact ⟨rfl, h⟩
  | false =>
    obtain ⟨_, _, hExpect, -⟩ := exists_of_bind h
    rw [expectMarks, acceptMarks_bind, if_neg (by simp [hMarks]), if_neg (by decide), expected] at hExpect
    cases hHead : s.trees.head? <;> simp [hHead] at hExpect

end Parsing

open Parsing

theorem startsWithMarks_angle (trees : List Tree) :
    startsWithMarks "<".toList trees = trees.head?.any (Tree.isMark '<') := by
  cases trees with
  | nil => rfl
  | cons t rest => cases t <;> rfl

section Paths

variable {fuel : Nat} {inExpression : Bool} {s t : Input} {p : Path}

theorem path_plain (h : path fuel inExpression s = .ok (p, t))
    (hAngle : s.trees.head?.any (Tree.isMark '<') = false) : p.trees = takenFrom s t := by
  cases fuel with
  | zero => cases hHead : s.trees.head? <;> simp [path, expected, hHead] at h
  | succ fuel =>
    rw [path, acceptMarks_bind, startsWithMarks_angle, if_neg (by simp [hAngle]), if_neg (by decide)] at h
    obtain ⟨⟨⟨rooted, segments⟩, ts⟩, _, hTaken, hPath⟩ := exists_of_bind h
    cases hPath
    exact (taken_eq_ok hTaken).2

theorem exists_of_startsWithMarks_colons {trees : List Tree} (h : startsWithMarks "::".toList trees = true) :
    ∃ first rest, trees = first :: rest ∧ first.isMark '<' = false := by
  cases trees with
  | nil => cases h
  | cons first rest =>
    refine ⟨first, rest, rfl, ?_⟩
    cases first with
    | mark spot c joint =>
      obtain ⟨⟨rfl, -⟩, -⟩ : (':' = c ∧ joint = true) ∧ _ := by simpa [startsWithMarks] using h
      rfl
    | name | lifetime | literal | group => rfl

/-- What stands in front of the colons behind a type comes first, else the colons do. -/
theorem head?_behindType (behind : List Segment × List Tree × Bool)
    (hBehind : behind.2.1.head?.any (Tree.isMark '<') = false)
    (h : (do
      expectMarks ">"
      let colons := (← rest).take 2
      expectMarks "::"
      let (segments, trees) ← taken (segments fuel inExpression)
      return ⟨true, behind.2.2, behind.1 ++ segments, behind.2.1 ++ colons ++ trees⟩ : Parsing Path) s = .ok (p, t)) :
    p.trees.head?.any (Tree.isMark '<') = false := by
  obtain ⟨-, h⟩ := expectMarks_eq_ok h
  rw [rest_bind] at h
  obtain ⟨hColons, h⟩ := expectMarks_eq_ok h
  obtain ⟨⟨_, ts⟩, w, -, h⟩ := exists_of_bind h
  cases h
  obtain ⟨first, rest, hTrees, hFirst⟩ := exists_of_startsWithMarks_colons hColons
  rw [hTrees]
  cases hFront : behind.2.1 with
  | nil => exact hFirst
  | cons front others =>
    rw [hFront] at hBehind
    exact hBehind

/-- The angle brackets around a type are not kept. By induction on the fuel, for the path behind `as` is read as any
other. -/
theorem head?_path (h : path fuel inExpression s = .ok (p, t)) :
    p.trees.head?.any (Tree.isMark '<') = false := by
  induction fuel generalizing inExpression s t p with
  | zero => cases hHead : s.trees.head? <;> simp [path, expected, hHead] at h
  | succ fuel ih =>
    cases hAngle : s.trees.head?.any (Tree.isMark '<') with
    | false =>
      rw [path_plain h hAngle]
      exact head?_takenFrom hAngle
    | true =>
      rw [path, acceptMarks_bind, startsWithMarks_angle, if_pos hAngle, if_pos rfl] at h
      obtain ⟨_, u, -, h⟩ := exists_of_bind h
      rw [acceptKeyword_bind] at h
      split at h
      · obtain ⟨q, v, hq, h⟩ := exists_of_bind h
        exact head?_behindType (q.segments, q.trees, q.rooted) (ih hq) h
      · exact head?_behindType ([], [], true) rfl h

end Paths

/-- A reader behind an operand leaves the operand alone or makes another expression of it. -/
def KeepsOperand (start : Spot) (base : Expr) (p : Parsing Expr) : Prop :=
  ∀ s e t, p s = .ok (e, t) → (e = base ∧ t = s) ∨ e = .other start

namespace KeepsOperand

variable {α : Type} {start : Spot} {base : Expr}

theorem pure : KeepsOperand start base (Pure.pure base) := by
  rintro s _ t ⟨⟩
  exact .inl ⟨rfl, rfl⟩

theorem rest {f : List Tree → Parsing Expr} (h : ∀ trees, KeepsOperand start base (f trees)) :
    KeepsOperand start base (Parsing.rest >>= f) :=
  fun s => h s.trees s

theorem peek {f : Option Tree → Parsing Expr} (h : ∀ next, KeepsOperand start base (f next)) :
    KeepsOperand start base (Parsing.peek >>= f) :=
  fun s => h s.trees.head? s

theorem behind {p : Parsing α} {f : α → Parsing Expr} (h : ∀ a, KeepsOperand start (.other start) (f a)) :
    KeepsOperand start base (p >>= f) := by
  intro s e t hRead
  obtain ⟨a, u, -, hThen⟩ := exists_of_bind hRead
  exact .inr ((h a u e t hThen).elim And.left id)

end KeepsOperand

section Expressions

variable (fuel : Nat) (braces : Bool) (start : Spot) (base : Expr)

theorem operations_keepsOperand : KeepsOperand start base (operations fuel braces start base) := by
  induction fuel generalizing base with
  | zero => exact .pure
  | succ fuel ih =>
    rw [operations]
    refine .rest fun trees => ?_
    split
    · refine .behind fun _ => .rest fun trees => ?_
      split
      · exact ih _
      · exact .behind fun _ => ih _
    · exact .behind fun _ => .behind fun _ => ih _
    · intro s e t h
      rw [acceptKeyword_bind] at h
      split at h
      · obtain ⟨_, u, -, h⟩ := exists_of_bind h
        exact .inr ((ih _ u e t h).elim And.left id)
      · exact KeepsOperand.pure s e t h

theorem trailers_keepsOperand : KeepsOperand start base (trailers fuel start base) := by
  induction fuel generalizing base with
  | zero => exact .pure
  | succ fuel ih =>
    rw [trailers]
    refine .peek fun next => ?_
    split
    · exact .behind fun _ => .behind fun _ => ih _
    · exact .behind fun _ => .behind fun _ => ih _
    · exact .behind fun _ => ih _
    · intro s e t h
      rw [atMarks_bind, ite_run] at h
      split at h
      · exact KeepsOperand.pure s e t h
      · exact KeepsOperand.behind (fun _ => .behind fun _ => ih _) s e t h
    · exact .pure

end Expressions

def startsPath (t : Tree) : Bool :=
  isPathName t || t.isMark '<' || t.isMark ':'

theorem startsPath_of_form {t : Tree} {ts : List Tree}
    (h : (isPathName t || t.isMark '<' || startsWithMarks [':', ':'] (t :: ts)) = true) : startsPath t = true := by
  rw [Bool.or_eq_true] at h
  rw [startsPath, Bool.or_eq_true]
  refine h.imp_right fun hColons => ?_
  cases t with
  | mark spot c joint =>
    obtain ⟨⟨rfl, -⟩, -⟩ : (':' = c ∧ joint = true) ∧ _ := by simpa [startsWithMarks] using hColons
    rfl
  | name | lifetime | literal | group => cases hColons

/-- The trees that spell a function, and those of the path that is meant: a path itself, or the path in a text. -/
inductive SpelledFunction : List Tree → List Tree → Prop where
  | bare {t : Tree} {ts : List Tree} (h : startsPath t = true) : SpelledFunction (t :: ts) (t :: ts)
  | text {spot : Spot} {l : Literal} {s : String} {ts : List Tree} (hText : l.value = .text s)
    (h : trees s = .ok ts) : SpelledFunction [.literal spot l] ts
  | grouped {opening closing : Spot} {content function : List Tree} (h : SpelledFunction content function) :
    SpelledFunction [.group opening closing .invisible content] function

/-- A path that stands behind a type in angle brackets. -/
inductive IsQualified : List Tree → Prop where
  | here {t : Tree} {ts : List Tree} (h : t.isMark '<' = true) : IsQualified (t :: ts)
  | grouped {opening closing : Spot} {content : List Tree} (h : IsQualified content) :
    IsQualified [.group opening closing .invisible content]

/-- A reader makes no expression that stands for a function. -/
def MakesNoFunction (p : Parsing Expr) : Prop :=
  ∀ s e t f, p s = .ok (e, t) → e.functionPath ≠ .ok f

namespace MakesNoFunction

variable {α : Type}

theorem expected (message : String) : MakesNoFunction (Parsing.expected message) :=
  fun s e t _ h => absurd h (expected_ne_ok message s (e, t))

theorem other (start : Spot) : MakesNoFunction (pure (.other start)) := by
  rintro s _ t f ⟨⟩
  nofun

theorem array (start : Spot) (items : List Expr) : MakesNoFunction (pure (.array start items)) := by
  rintro s _ t f ⟨⟩
  nofun

theorem negation (start : Spot) (inner : Expr) : MakesNoFunction (pure (.negation start inner)) := by
  rintro s _ t f ⟨⟩
  nofun

theorem bool (start : Spot) (b : Bool) : MakesNoFunction (pure (.constant start (.bool b))) := by
  rintro s _ t f ⟨⟩
  nofun

theorem behind {p : Parsing α} {f : α → Parsing Expr} (h : ∀ a, MakesNoFunction (f a)) :
    MakesNoFunction (p >>= f) := by
  intro s e t g hRead
  obtain ⟨a, u, -, hThen⟩ := exists_of_bind hRead
  exact h a u e t g hThen

theorem arrayItems (fuel : Nat) (start : Spot) : MakesNoFunction (arrayItems fuel start) := by
  cases fuel with
  | zero => exact expected _
  | succ fuel =>
    rw [Source.arrayItems]
    refine behind fun done => ?_
    split
    · exact array start []
    · refine behind fun first => behind fun sized => ?_
      split
      · exact behind fun _ => other start
      · refine behind fun last => ?_
        split
        · exact array start [first]
        · refine behind fun more => ?_
          split
          · exact behind fun items => array start (first :: items)
          · exact expected _

theorem inside {p : Parsing Expr} (h : MakesNoFunction p) (content : List Tree) (closing : Spot) :
    MakesNoFunction (Parsing.inside content closing p) := by
  intro s e t f hRead
  obtain ⟨-, left, hInside, -⟩ := inside_eq_ok hRead
  exact h _ e left f hInside

end MakesNoFunction

section Functions

variable {fuel : Nat} {braces : Bool} {start : Spot} {s t : Input} {e : Expr} {p : Path}

theorem exists_takenFrom {tree : Tree} {rest : List Tree} (hTrees : s.trees = tree :: rest)
    (h : t.trees.length < s.trees.length) : ∃ ts, takenFrom s t = tree :: ts := by
  obtain ⟨n, hn⟩ := Nat.exists_eq_add_of_lt h
  refine ⟨rest.take n, ?_⟩
  have hCount : t.trees.length + n + 1 - t.trees.length = n + 1 := by omega
  rw [takenFrom, hn, hTrees, hCount]
  rfl

/-- The trees of a function are the ones it is spelled with, but for a path behind a type. -/
def IsFunctionOf (written function : List Tree) : Prop :=
  SpelledFunction written function ↔ ¬ IsQualified written

theorem IsFunctionOf.grouped {opening closing : Spot} {content function : List Tree}
    (h : IsFunctionOf content function) : IsFunctionOf [.group opening closing .invisible content] function := by
  constructor
  · rintro (hBare | _ | hSpelled) (hHere | hQualified)
    · cases hHere
    · cases hBare
    · cases hHere
    · exact h.mp hSpelled hQualified
  · exact fun hNot => .grouped (h.mpr fun hQualified => hNot (.grouped hQualified))

theorem path_isFunctionOf {tree : Tree} {rest : List Tree} (hTrees : s.trees = tree :: rest)
    (hStarts : startsPath tree = true) {inExpression : Bool} (h : path fuel inExpression s = .ok (p, t)) :
    IsFunctionOf (takenFrom s t) p.trees := by
  obtain ⟨ts, hTaken⟩ := exists_takenFrom hTrees (path_progresses fuel inExpression s p t h)
  cases hAngle : tree.isMark '<' with
  | false =>
    have hPlain := path_plain h (by rw [hTrees]; exact hAngle)
    rw [hPlain, hTaken]
    refine iff_of_true (.bare hStarts) ?_
    rintro (hHere | hGrouped)
    · rw [hAngle] at hHere
      cases hHere
    · cases hStarts
  | true =>
    rw [hTaken]
    refine iff_of_false (fun hSpelled => ?_) (not_not_intro (.here hAngle))
    have hHead := head?_path h
    generalize p.trees = function at hHead hSpelled
    cases hSpelled with
    | bare =>
      rw [List.head?_cons, Option.any_some, hAngle] at hHead
      cases hHead
    | text | grouped => cases hAngle

theorem pathOfText_isFunctionOf {spot : Spot} {l : Literal} {text : String} (hText : l.value = .text text)
    (h : Expr.pathOfText start text = .ok p) : IsFunctionOf [.literal spot l] p.trees := by
  rw [Expr.pathOfText] at h
  cases hTrees : trees text with
  | error lexical =>
    rw [hTrees] at h
    cases h
  | ok ts =>
    rw [hTrees] at h
    refine iff_of_true (.text hText (hTrees.trans ?_)) (by rintro ⟨⟩; contradiction)
    cases hRun : Expr.plainPath.run ts (Spot.start.after text.toList) with
    | error d =>
      simp only [hRun] at h
      cases h
    | ok q =>
      simp only [hRun] at h
      cases h
      obtain ⟨left, hRead, hLeft⟩ := run_eq_ok hRun
      rw [Expr.plainPath, atMarks_bind, startsWithMarks_angle, ite_run] at hRead
      split at hRead
      · exact absurd hRead (expected_ne_ok _ _ _)
      · next hAngle =>
        rw [path_plain hRead (Bool.eq_false_iff.mpr hAngle), takenFrom_nil hLeft]

theorem pathForm_isFunctionOf {tree : Tree} {rest : List Tree} (hTrees : s.trees = tree :: rest)
    (hStarts : startsPath tree = true) (h : pathForm fuel braces start s = .ok (e, t))
    (hPath : e.functionPath = .ok p) : IsFunctionOf (takenFrom s t) p.trees := by
  cases fuel with
  | zero => exact absurd h (expected_ne_ok _ _ _)
  | succ fuel =>
    rw [pathForm] at h
    obtain ⟨q, u, hRead, h⟩ := exists_of_bind h
    have hForm := path_isFunctionOf hTrees hStarts hRead
    rw [atMarks_bind, atMarks_bind, ite_run] at h
    split at h
    · exact absurd hPath (MakesNoFunction.behind (fun _ => .other start) u e t p h)
    · rw [atGroup_bind, ite_run] at h
      split at h
      · exact absurd hPath (MakesNoFunction.behind (fun _ => .other start) u e t p h)
      · cases h
        cases hPath
        exact hForm

theorem atom_isFunctionOf
    (ih : ∀ less < fuel, ∀ {braces : Bool} {s t : Input} {e : Expr} {p : Path}, expr less braces s = .ok (e, t) →
      e.functionPath = .ok p → IsFunctionOf (takenFrom s t) p.trees)
    (h : atom fuel braces s = .ok (e, t)) (hPath : e.functionPath = .ok p) :
    IsFunctionOf (takenFrom s t) p.trees := by
  cases fuel with
  | zero => exact absurd h (expected_ne_ok _ _ _)
  | succ fuel =>
    have hNone {q : Parsing Expr} {u : Input} (hNone : MakesNoFunction q) (h : q u = .ok (e, t)) :
        IsFunctionOf (takenFrom s t) p.trees :=
      absurd hPath (hNone u e t p h)
    rw [atom, spot_bind, peek_bind] at h
    cases hTrees : s.trees with
    | nil =>
      rw [hTrees] at h
      exact absurd h (expected_ne_ok _ s _)
    | cons tree rest =>
      rw [hTrees, List.head?_cons] at h
      cases tree with
      | name | mark =>
        dsimp only at h
        simp only [ite_run] at h
        split at h
        · exact hNone (.behind fun _ => .bool _ _) h
        split at h
        · exact hNone (.behind fun _ => .bool _ _) h
        split at h
        · exact hNone (.behind fun _ => .other _) h
        rw [rest_bind, ite_run] at h
        split at h
        · exact hNone (.behind fun _ => .other _) h
        rw [rest_bind, ite_run] at h
        split at h
        · next hStarts =>
          exact pathForm_isFunctionOf hTrees (startsPath_of_form (hTrees ▸ hStarts)) h hPath
        · exact hNone (.behind fun _ => .other _) h
      | lifetime => exact hNone (.behind fun _ => .behind fun _ => .behind fun _ => .other _) h
      | literal spot l =>
        dsimp only at h
        rw [advance_bind] at h
        cases h
        rw [takenFrom_cons (by rw [hTrees]; rfl)]
        cases hValue : l.value with
        | text text =>
          rw [hValue] at hPath
          exact pathOfText_isFunctionOf hValue hPath
        | int | float | other =>
          rw [hValue] at hPath
          cases hPath
      | group opening closing delimiter content =>
        cases delimiter with
        | paren => exact hNone (.behind fun _ => .behind fun _ => .other _) h
        | bracket => exact hNone (.behind fun _ => .inside (.arrayItems fuel _) content closing) h
        | brace => exact hNone (.behind fun _ => .other _) h
        | invisible =>
          dsimp only at h
          rw [advance_bind] at h
          obtain ⟨inner, u, hInside, h⟩ := exists_of_bind h
          obtain ⟨rfl, left, hRead, hLeft⟩ := inside_eq_ok hInside
          cases h
          have hInner := ih fuel (Nat.lt_succ_self fuel) hRead hPath
          rw [takenFrom_nil hLeft] at hInner
          rw [takenFrom_cons (by rw [hTrees]; rfl)]
          exact hInner.grouped

theorem exists_atom_of_expr (h : expr fuel braces s = .ok (e, t)) (hPath : e.functionPath = .ok p) :
    ∃ less < fuel, atom less braces s = .ok (e, t) := by
  have hOther (start : Spot) : e ≠ .other start := by
    rintro rfl
    cases hPath
  have hNone {q : Parsing Expr} {u : Input} (hNone : MakesNoFunction q) : q u ≠ .ok (e, t) :=
    fun h => hNone u e t p h hPath
  obtain _ | _ | fuel := fuel
  · exact absurd h (expected_ne_ok _ _ _)
  · rw [expr, spot_bind] at h
    obtain ⟨_, _, hUnary, -⟩ := exists_of_bind h
    exact absurd hUnary (expected_ne_ok _ _ _)
  · rw [expr, spot_bind] at h
    obtain ⟨first, u, hUnary, h⟩ := exists_of_bind h
    obtain ⟨rfl, rfl⟩ := (operations_keepsOperand _ braces _ first u e t h).resolve_right (hOther _)
    rw [unary, spot_bind, acceptMarks_bind] at hUnary
    split at hUnary
    · exact absurd hUnary (hNone (.behind fun _ => .negation _ _))
    rw [if_neg (by decide), acceptMarks_bind] at hUnary
    split at hUnary
    · exact absurd hUnary (hNone (.behind fun _ => .behind fun _ => .other _))
    rw [if_neg (by decide), acceptMarks_bind] at hUnary
    split at hUnary
    · exact absurd hUnary (hNone (.behind fun _ => .other _))
    rw [if_neg (by decide), acceptMarks_bind] at hUnary
    split at hUnary
    · exact absurd hUnary (hNone (.behind fun _ => .other _))
    rw [if_neg (by decide)] at hUnary
    obtain ⟨base, u, hAtom, hTrailers⟩ := exists_of_bind hUnary
    obtain ⟨rfl, rfl⟩ := (trailers_keepsOperand fuel _ base u _ _ hTrailers).resolve_right (hOther _)
    exact ⟨fuel, by omega, hAtom⟩

/-- By induction on the fuel, for delimiters that are not written stand around an expression again. -/
theorem expr_isFunctionOf (h : expr fuel braces s = .ok (e, t)) (hPath : e.functionPath = .ok p) :
    IsFunctionOf (takenFrom s t) p.trees := by
  induction fuel using Nat.strongRecOn generalizing braces s t e p with
  | ind fuel ih =>
    obtain ⟨less, hLess, hAtom⟩ := exists_atom_of_expr h hPath
    exact atom_isFunctionOf (fun other hOther => ih other (Nat.lt_trans hOther hLess)) hAtom hPath

end Functions

end FieldRules.Source
