import FieldRules.Proofs.Source.Steps

/-!
# Paths as they are written

Which trees a path is written with: names with double colons between them, and arguments in angle brackets, which
are lifetimes, literals and in turn paths. The reader of paths takes just these trees.
-/
set_option autoImplicit false

namespace FieldRules.Source

open Parsing

def takesArguments (raw : Bool) (text : String) : Bool :=
  raw || !keywords.contains text || text == "Self"

mutual

/-- A part of a path. In an expression a double colon stands before its arguments. -/
inductive WrittenSegment : Bool → List Tree → Segment → Prop where
  | name {inExpression : Bool} {spot : Spot} {raw : Bool} {text : String}
      (h : isPathName (.name spot raw text) = true) :
      WrittenSegment inExpression [.name spot raw text] ⟨spelledName raw text, []⟩
  | generic {inExpression : Bool} {spot : Spot} {raw : Bool} {text : String} {first second angle : Spot}
      {joint joint' : Bool} {ts : List Tree} {as : List (Option TypeExpr)}
      (h : takesArguments raw text = true) (hArguments : WrittenTypeArguments ts as) :
      WrittenSegment inExpression
        (.name spot raw text :: .mark first ':' true :: .mark second ':' joint :: .mark angle '<' joint' :: ts)
        ⟨spelledName raw text, as⟩
  | angles {spot : Spot} {raw : Bool} {text : String} {angle : Spot} {joint : Bool} {ts : List Tree}
      {as : List (Option TypeExpr)} (h : takesArguments raw text = true) (hArguments : WrittenTypeArguments ts as) :
      WrittenSegment false (.name spot raw text :: .mark angle '<' joint :: ts) ⟨spelledName raw text, as⟩

inductive WrittenSegments : Bool → List Tree → List Segment → Prop where
  | last {inExpression : Bool} {ts : List Tree} {s : Segment} (h : WrittenSegment inExpression ts s) :
      WrittenSegments inExpression ts [s]
  | cons {inExpression : Bool} {ts rest : List Tree} {s : Segment} {ss : List Segment}
      (h : WrittenSegment inExpression ts s) (first second : Spot) (joint : Bool)
      (hRest : WrittenSegments inExpression rest ss) :
      WrittenSegments inExpression (ts ++ .mark first ':' true :: .mark second ':' joint :: rest) (s :: ss)

inductive WrittenPath : Bool → List Tree → Path → Prop where
  | names {inExpression : Bool} {ts : List Tree} {ss : List Segment} (h : WrittenSegments inExpression ts ss) :
      WrittenPath inExpression ts ⟨false, false, ss, ts⟩
  | rooted {inExpression : Bool} {ts : List Tree} {ss : List Segment} {first second : Spot} {joint : Bool}
      (h : WrittenSegments inExpression ts ss) :
      WrittenPath inExpression (.mark first ':' true :: .mark second ':' joint :: ts)
        ⟨false, true, ss, .mark first ':' true :: .mark second ':' joint :: ts⟩

inductive WrittenTypeArgument : List Tree → Option TypeExpr → Prop where
  | path {ts : List Tree} {p : Path} {s : Segment} (h : WrittenPath false ts p) (hLast : p.last? = some s) :
      WrittenTypeArgument ts (some (.path s.name s.arguments))
  | lifetime (spot : Spot) (text : String) : WrittenTypeArgument [.lifetime spot text] none
  | literal (spot : Spot) (l : Literal) : WrittenTypeArgument [.literal spot l] none

/-- The arguments up to the closing angle bracket. A comma may follow the last one. -/
inductive WrittenTypeArguments : List Tree → List (Option TypeExpr) → Prop where
  | nil (spot : Spot) (joint : Bool) : WrittenTypeArguments [.mark spot '>' joint] []
  | last {ts : List Tree} {a : Option TypeExpr} (h : WrittenTypeArgument ts a) (spot : Spot) (joint : Bool) :
      WrittenTypeArguments (ts ++ [.mark spot '>' joint]) [a]
  | cons {ts rest : List Tree} {a : Option TypeExpr} {as : List (Option TypeExpr)} (h : WrittenTypeArgument ts a)
      (spot : Spot) (joint : Bool) (hRest : WrittenTypeArguments rest as) :
      WrittenTypeArguments (ts ++ .mark spot ',' joint :: rest) (a :: as)

end

/-- Nothing follows, or what ends an argument in angle brackets or an item of a list. -/
inductive Closed : List Tree → Prop where
  | nil : Closed []
  | comma (spot : Spot) (joint : Bool) (rest : List Tree) : Closed (.mark spot ',' joint :: rest)
  | angle (spot : Spot) (joint : Bool) (rest : List Tree) : Closed (.mark spot '>' joint :: rest)

/-- What may stand behind a part of a path: no arguments. -/
structure EndsSegment (rest : List Tree) : Prop where
  angle : startsWithMarks ['<'] rest = false
  colons : (startsWithMarks [':', ':'] rest && (rest.drop 2).head?.any (Tree.isMark '<')) = false

namespace Closed

variable {rest : List Tree} (h : Closed rest)

include h

theorem startsWithMarks {c : Char} (hComma : c ≠ ',') (hAngle : c ≠ '>') (cs : List Char) :
    startsWithMarks (c :: cs) rest = false := by
  cases h <;> cases cs <;> simp [Source.startsWithMarks, hComma, hAngle]

theorem head?_any {p : Tree → Bool} (hComma : ∀ spot joint, p (.mark spot ',' joint) = false)
    (hAngle : ∀ spot joint, p (.mark spot '>' joint) = false) : rest.head?.any p = false := by
  cases h with
  | nil => rfl
  | comma spot joint rest => exact hComma spot joint
  | angle spot joint rest => exact hAngle spot joint

theorem endsSegment : EndsSegment rest := by
  refine ⟨h.startsWithMarks (by decide) (by decide) _, ?_⟩
  rw [h.startsWithMarks (by decide) (by decide), Bool.false_and]

end Closed

section Names

variable {spot : Spot} {raw : Bool} {text : String}

theorem not_pathKeyword_raw (text : String) : spelledName true text ∉ pathKeywords := by
  have hFirst : ∀ word ∈ pathKeywords, word.toList.head? ≠ some 'r' := by decide
  intro h
  exact hFirst _ h (by simp [spelledName])

theorem isPathName_of_takesArguments (h : takesArguments raw text = true) (spot : Spot) :
    isPathName (.name spot raw text) = true := by
  simp only [takesArguments, isPathName, Bool.or_eq_true, beq_iff_eq] at h ⊢
  rcases h with h | rfl
  · exact .inl h
  · exact .inr rfl

theorem not_bare_of_takesArguments (h : takesArguments raw text = true) :
    ¬ (pathKeywords.contains (spelledName raw text) && spelledName raw text != "Self") = true := by
  cases raw with
  | true => simp [not_pathKeyword_raw]
  | false =>
    have hKeywords : ∀ word ∈ pathKeywords, word ∈ keywords := by decide
    simp only [takesArguments, spelledName, Bool.false_or, Bool.or_eq_true, Bool.not_eq_true', beq_iff_eq,
      Bool.and_eq_true, List.contains_iff_mem, bne_iff_ne, Bool.false_eq_true, if_false] at h ⊢
    rintro ⟨hMem, hSelf⟩
    rcases h with h | h
    · simp [hKeywords text hMem] at h
    · exact hSelf h

theorem isKeyword_eq_false (h : isPathName (.name spot raw text) = true) (word : String)
    (hWord : isPathName (.name .start false word) = false) : (Tree.name spot raw text).isKeyword word = false := by
  apply Bool.eq_false_iff.mpr
  intro hKeyword
  simp only [Tree.isKeyword, Bool.and_eq_true, Bool.not_eq_true', beq_iff_eq] at hKeyword
  obtain ⟨rfl, rfl⟩ := hKeyword
  cases h.symm.trans hWord

theorem isLiteralStart_name (h : isPathName (.name spot raw text) = true) (ts : List Tree) :
    isLiteralStart (.name spot raw text :: ts) = false := by
  have hTrue := isKeyword_eq_false h "true" (by decide)
  have hFalse := isKeyword_eq_false h "false" (by decide)
  cases raw with
  | true => rfl
  | false => simpa [isLiteralStart, Tree.isKeyword] using And.intro hTrue hFalse

theorem pathName_ok (h : isPathName (.name spot raw text) = true) (rest : List Tree) (closing : Spot) :
    pathName ⟨.name spot raw text :: rest, closing⟩ = .ok (spelledName raw text, ⟨rest, closing⟩) := by
  simp only [isPathName, Bool.or_eq_true] at h
  cases raw with
  | true => rfl
  | false =>
    rw [pathName, peek_bind]
    simp only [List.head?_cons, ite_run]
    split
    · rfl
    · next hKeyword =>
      have hName : (false || !keywords.contains text) = true := by
        simpa using h.resolve_right (by simpa using hKeyword)
      rw [name, peek_bind]
      simp only [List.head?_cons, ite_run, if_pos hName]
      rfl

end Names

section Heads

variable {inExpression : Bool} {ts : List Tree}

theorem WrittenSegments.head {ss : List Segment} (h : WrittenSegments inExpression ts ss) :
    ∃ spot raw text rest, ts = .name spot raw text :: rest ∧ isPathName (.name spot raw text) = true := by
  cases h with
  | last h | cons h =>
    cases h with
    | name h => exact ⟨_, _, _, _, rfl, h⟩
    | generic h | angles h => exact ⟨_, _, _, _, rfl, isPathName_of_takesArguments h _⟩

theorem WrittenSegments.endsSegment {ss : List Segment} (h : WrittenSegments inExpression ts ss)
    (first second : Spot) (joint : Bool) (rest : List Tree) :
    EndsSegment (.mark first ':' true :: .mark second ':' joint :: (ts ++ rest)) := by
  obtain ⟨spot, raw, text, behind, rfl, -⟩ := h.head
  exact ⟨rfl, rfl⟩

theorem WrittenPath.head {p : Path} (h : WrittenPath inExpression ts p) :
    (∃ spot raw text rest, ts = .name spot raw text :: rest ∧ isPathName (.name spot raw text) = true) ∨
      ∃ spot rest, ts = .mark spot ':' true :: rest := by
  cases h with
  | names h => exact .inl h.head
  | rooted h => exact .inr ⟨_, _, rfl⟩

theorem WrittenTypeArgument.startsWithMarks {a : Option TypeExpr} (h : WrittenTypeArgument ts a) {c : Char}
    (hc : c ≠ ':') (rest : List Tree) : startsWithMarks [c] (ts ++ rest) = false := by
  cases h with
  | lifetime | literal => rfl
  | path h =>
    obtain ⟨spot, raw, text, behind, rfl, -⟩ | ⟨spot, behind, rfl⟩ := h.head
    · rfl
    · simpa [Source.startsWithMarks] using hc

/-- No equals sign follows an opening angle bracket. -/
theorem WrittenTypeArguments.startsWithMarks {as : List (Option TypeExpr)} (h : WrittenTypeArguments ts as)
    (rest : List Tree) : startsWithMarks ['='] (ts ++ rest) = false := by
  cases h with
  | nil => rfl
  | last h | cons h =>
    rw [List.append_assoc]
    exact h.startsWithMarks (by decide) _

end Heads

section Productions

variable {fuel : Nat} {inExpression : Bool} {spot : Spot} {raw : Bool} {text : String} {ts rest : List Tree}
  {closing : Spot}

theorem segment_name (h : isPathName (.name spot raw text) = true) (hRest : EndsSegment rest) :
    segment (fuel + 1) inExpression ⟨.name spot raw text :: rest, closing⟩ =
      .ok (⟨spelledName raw text, []⟩, ⟨rest, closing⟩) := by
  have hColons : (startsWithMarks "::".toList rest && (rest.drop 2).head?.any (Tree.isMark '<')) = false :=
    hRest.colons
  have hAngle : startsWithMarks "<".toList rest = false := hRest.angle
  rw [segment, bind_ok (pathName_ok h _ _), ite_run]
  split
  · rfl
  · simp only [atMarks_bind, rest_bind, ite_run, hColons, hAngle, Bool.and_false, Bool.false_and,
      Bool.false_eq_true, if_false, pure_run]

theorem segment_generic {first second angle : Spot} {joint joint' : Bool} (h : takesArguments raw text = true)
    {as : List (Option TypeExpr)} (hArguments : arguments fuel ⟨ts, closing⟩ = .ok (as, ⟨rest, closing⟩)) :
    segment (fuel + 1) inExpression ⟨.name spot raw text :: .mark first ':' true :: .mark second ':' joint ::
      .mark angle '<' joint' :: ts, closing⟩ = .ok (⟨spelledName raw text, as⟩, ⟨rest, closing⟩) := by
  rw [segment, bind_ok (pathName_ok (isPathName_of_takesArguments h _) _ _), ite_run,
    if_neg (not_bare_of_takesArguments h)]
  simp only [atMarks_bind, rest_bind, ite_run]
  rw [if_pos (by rfl), advance_bind]
  exact bind_ok hArguments _

theorem segment_angles {angle : Spot} {joint : Bool} (h : takesArguments raw text = true)
    {as : List (Option TypeExpr)} (hArguments : arguments fuel ⟨ts, closing⟩ = .ok (as, ⟨rest, closing⟩))
    (hEquals : startsWithMarks ['='] ts = false) :
    segment (fuel + 1) false ⟨.name spot raw text :: .mark angle '<' joint :: ts, closing⟩ =
      .ok (⟨spelledName raw text, as⟩, ⟨rest, closing⟩) := by
  have hAngle : startsWithMarks "<=".toList (.mark angle '<' joint :: ts) = false := by
    simp [startsWithMarks, hEquals]
  have hColons : startsWithMarks "::".toList (.mark angle '<' joint :: ts) = false := rfl
  rw [segment, bind_ok (pathName_ok (isPathName_of_takesArguments h _) _ _), ite_run,
    if_neg (not_bare_of_takesArguments h)]
  simp only [atMarks_bind, rest_bind, ite_run, hAngle, hColons]
  rw [if_neg (by simp), if_pos (by rfl), advance_bind]
  exact bind_ok hArguments _

theorem segments_last {s : Segment} (h : segment fuel inExpression ⟨ts, closing⟩ = .ok (s, ⟨rest, closing⟩))
    (hRest : Closed rest) : segments (fuel + 1) inExpression ⟨ts, closing⟩ = .ok ([s], ⟨rest, closing⟩) := by
  have hColons : startsWithMarks "::".toList rest = false := hRest.startsWithMarks (by decide) (by decide) _
  rw [segments, bind_ok h, atMarks_bind, hColons]
  rfl

theorem segments_cons {s : Segment} {ss : List Segment} {first second : Spot} {joint : Bool} {us : List Tree}
    (h : segment fuel inExpression ⟨ts, closing⟩ =
      .ok (s, ⟨.mark first ':' true :: .mark second ':' joint :: us, closing⟩))
    (hGroup : us.head?.any (Tree.isGroup .paren) = false)
    (hRest : segments fuel inExpression ⟨us, closing⟩ = .ok (ss, ⟨rest, closing⟩)) :
    segments (fuel + 1) inExpression ⟨ts, closing⟩ = .ok (s :: ss, ⟨rest, closing⟩) := by
  rw [segments, bind_ok h]
  simp only [atMarks_bind, rest_bind, ite_run]
  rw [if_pos (by rfl), if_neg (by simpa using hGroup), advance_bind]
  exact bind_ok hRest _

theorem path_names {ss : List Segment} (h : WrittenSegments inExpression ts ss)
    (hRead : segments fuel inExpression ⟨ts ++ rest, closing⟩ = .ok (ss, ⟨rest, closing⟩)) :
    path (fuel + 1) inExpression ⟨ts ++ rest, closing⟩ = .ok (⟨false, false, ss, ts⟩, ⟨rest, closing⟩) := by
  obtain ⟨spot, raw, text, behind, hHead, -⟩ := h.head
  have hNoMark (c : Char) (cs : List Char) : startsWithMarks (c :: cs) (ts ++ rest) = false := by
    rw [hHead]
    cases cs <;> rfl
  have hInner : (do
      let rooted ← acceptMarks "::"
      let segments ← segments fuel inExpression
      return (rooted, segments) : Parsing (Bool × List Segment)) ⟨ts ++ rest, closing⟩ =
        .ok ((false, ss), ⟨rest, closing⟩) := by
    rw [acceptMarks_bind, if_neg (by simp [hNoMark])]
    exact bind_ok hRead _
  rw [path, acceptMarks_bind, if_neg (by simp [hNoMark]), if_neg (by decide)]
  exact bind_ok (taken_ok hInner) _

theorem path_rooted {ss : List Segment} {first second : Spot} {joint : Bool}
    (hRead : segments fuel inExpression ⟨ts ++ rest, closing⟩ = .ok (ss, ⟨rest, closing⟩)) :
    path (fuel + 1) inExpression ⟨.mark first ':' true :: .mark second ':' joint :: ts ++ rest, closing⟩ =
      .ok (⟨false, true, ss, .mark first ':' true :: .mark second ':' joint :: ts⟩, ⟨rest, closing⟩) := by
  have hInner : (do
      let rooted ← acceptMarks "::"
      let segments ← segments fuel inExpression
      return (rooted, segments) : Parsing (Bool × List Segment))
        ⟨.mark first ':' true :: .mark second ':' joint :: ts ++ rest, closing⟩ =
        .ok ((true, ss), ⟨rest, closing⟩) := by
    rw [acceptMarks_bind, if_pos (by rfl)]
    exact bind_ok hRead _
  rw [path, acceptMarks_bind, if_neg (by simp [startsWithMarks]), if_neg (by decide)]
  exact bind_ok (taken_ok hInner) _

theorem pathType_path {p : Path} {s : Segment} (hLast : p.last? = some s)
    (hRead : path fuel false ⟨ts, closing⟩ = .ok (p, ⟨rest, closing⟩)) (hRest : Closed rest) :
    pathType (fuel + 1) true ⟨ts, closing⟩ = .ok (.path s.name s.arguments, ⟨rest, closing⟩) := by
  have hMark : startsWithMarks "!".toList rest = false := hRest.startsWithMarks (by decide) (by decide) _
  have hPlus : startsWithMarks "+".toList rest = false := hRest.startsWithMarks (by decide) (by decide) _
  rw [pathType, bind_ok hRead, atMarks_bind, hMark, if_neg (by decide), atMarks_bind, hPlus, if_neg (by decide),
    hLast]
  rfl

theorem typeExpr_name {t : TypeExpr} (h : isPathName (.name spot raw text) = true)
    (hRead : pathType fuel true ⟨.name spot raw text :: ts, closing⟩ = .ok (t, ⟨rest, closing⟩)) :
    typeExpr (fuel + 2) true ⟨.name spot raw text :: ts, closing⟩ = .ok (t, ⟨rest, closing⟩) := by
  have hWord : ∀ word ∈ ["_", "dyn", "impl", "for", "fn", "unsafe", "extern"],
      (Tree.name spot raw text).isKeyword word = false := by
    intro word hMem
    have hNoName : ∀ word ∈ ["_", "dyn", "impl", "for", "fn", "unsafe", "extern"],
        isPathName (.name .start false word) = false := by decide
    exact isKeyword_eq_false h word (hNoName word hMem)
  simp only [List.forall_mem_cons] at hWord
  obtain ⟨hHole, hDyn, hImpl, hFor, hFn, hUnsafe, hExtern, -⟩ := hWord
  have hFunction : (Option.some (Tree.name spot raw text)).any
      (fun t => t.isKeyword "fn" || t.isKeyword "unsafe" || t.isKeyword "extern") = false := by
    simp [hFn, hUnsafe, hExtern]
  rw [typeExpr, peek_bind]
  simp only [List.head?_cons]
  rw [namedType, atFunction]
  simp only [ite_run, peek_bind, bind_assoc, List.head?_cons, hHole, hDyn, hImpl, hFor, pure_bind, hFunction,
    Bool.or_false, Bool.false_eq_true, if_false]
  exact hRead

theorem typeExpr_rooted {t : TypeExpr} {joint : Bool}
    (hRead : pathType fuel true ⟨.mark spot ':' joint :: ts, closing⟩ = .ok (t, ⟨rest, closing⟩)) :
    typeExpr (fuel + 1) true ⟨.mark spot ':' joint :: ts, closing⟩ = .ok (t, ⟨rest, closing⟩) := by
  rw [typeExpr, peek_bind]
  exact hRead

/-- A path as an argument is no literal or lifetime, and nothing is bound to it. -/
theorem argument_path {p : Path} {t : TypeExpr} (h : WrittenPath false ts p)
    (hRead : typeExpr fuel true ⟨ts ++ rest, closing⟩ = .ok (t, ⟨rest, closing⟩)) (hRest : Closed rest) :
    argument (fuel + 1) ⟨ts ++ rest, closing⟩ = .ok (some t, ⟨rest, closing⟩) := by
  have hEquals : startsWithMarks "=".toList rest = false := hRest.startsWithMarks (by decide) (by decide) _
  have hColon : startsWithMarks ":".toList rest = false := hRest.startsWithMarks (by decide) (by decide) _
  have hStart : isLiteralStart (ts ++ rest) = false ∧ (ts ++ rest).head?.any Tree.isLifetime = false ∧
      (ts ++ rest).head?.any (Tree.isGroup .brace) = false := by
    obtain ⟨spot, raw, text, behind, rfl, hName⟩ | ⟨spot, behind, rfl⟩ := h.head
    · exact ⟨isLiteralStart_name hName _, rfl, rfl⟩
    · exact ⟨rfl, rfl, rfl⟩
  obtain ⟨hLiteral, hLifetime, hBrace⟩ := hStart
  rw [argument, rest_bind, atLifetime_bind, hLifetime, if_neg (by simp), hLiteral, if_neg (by decide), atGroup_bind,
    hBrace, if_neg (by decide), bind_ok hRead, acceptMarks_bind, hEquals, if_neg (by decide), if_neg (by decide),
    acceptMarks_bind, hColon]
  rfl

theorem argument_lifetime (spot : Spot) (text : String) (hRest : Closed rest) :
    argument (fuel + 1) ⟨.lifetime spot text :: rest, closing⟩ = .ok (none, ⟨rest, closing⟩) := by
  have hPlus : rest.head?.any (Tree.isMark '+') = false :=
    hRest.head?_any (fun _ _ => rfl) fun _ _ => rfl
  rw [argument, rest_bind]
  simp [atLifetime, hPlus]
  rfl

theorem argument_literal (spot : Spot) (l : Literal) :
    argument (fuel + 1) ⟨.literal spot l :: rest, closing⟩ = .ok (none, ⟨rest, closing⟩) := by
  rw [argument, rest_bind]
  simp [atLifetime, isLiteralStart, skipLiteral]
  rfl

theorem arguments_nil (spot : Spot) (joint : Bool) :
    arguments (fuel + 1) ⟨.mark spot '>' joint :: rest, closing⟩ = .ok ([], ⟨rest, closing⟩) := by
  rw [arguments, acceptMarks_bind]
  rfl

section Arguments

variable {a : Option TypeExpr} {as : List (Option TypeExpr)} {joint : Bool} {us : List Tree}
  (hAngle : startsWithMarks ['>'] ts = false)

include hAngle

theorem arguments_last
    (hRead : argument fuel ⟨ts, closing⟩ = .ok (a, ⟨.mark spot '>' joint :: rest, closing⟩)) :
    arguments (fuel + 1) ⟨ts, closing⟩ = .ok ([a], ⟨rest, closing⟩) := by
  rw [arguments, acceptMarks_bind, if_neg (by simp [hAngle]), if_neg (by decide), bind_ok hRead, acceptMarks_bind]
  rfl

theorem arguments_cons
    (hRead : argument fuel ⟨ts, closing⟩ = .ok (a, ⟨.mark spot ',' joint :: us, closing⟩))
    (hRest : arguments fuel ⟨us, closing⟩ = .ok (as, ⟨rest, closing⟩)) :
    arguments (fuel + 1) ⟨ts, closing⟩ = .ok (a :: as, ⟨rest, closing⟩) := by
  rw [arguments, acceptMarks_bind, if_neg (by simp [hAngle]), if_neg (by decide), bind_ok hRead, acceptMarks_bind,
    if_neg (by simp [startsWithMarks]), if_neg (by decide), expectMarks_bind _ (by rfl)]
  exact bind_ok hRest _

end Arguments
end Productions

section Sizes

variable {inExpression : Bool} {ts : List Tree}

theorem WrittenSegment.size_pos {s : Segment} (h : WrittenSegment inExpression ts s) : 0 < sizeOfTrees ts := by
  cases h <;> (simp only [sizeOfTrees_cons, sizeOfTrees_nil, Tree.size]; omega)

theorem WrittenTypeArguments.size_pos {as : List (Option TypeExpr)} (h : WrittenTypeArguments ts as) :
    0 < sizeOfTrees ts := by
  cases h <;> (simp only [sizeOfTrees_append, sizeOfTrees_cons, sizeOfTrees_nil, Tree.size]; omega)

end Sizes

-- The readers call each other with one unit of fuel less, less than eight times from one tree to the next. Each
-- bound leaves room for the calls down to the readers of the parts.
mutual

theorem WrittenSegment.reads {inExpression : Bool} {ts : List Tree} {s : Segment}
    (h : WrittenSegment inExpression ts s) (fuel : Nat) (hFuel : 8 * sizeOfTrees ts ≤ fuel) {rest : List Tree}
    (hRest : EndsSegment rest) (closing : Spot) :
    segment fuel inExpression ⟨ts ++ rest, closing⟩ = .ok (s, ⟨rest, closing⟩) := by
  have hPos := h.size_pos
  match fuel with
  | 0 => omega
  | fuel + 1 =>
    cases h with
    | name h => exact segment_name h hRest
    | generic h hArguments =>
      simp only [sizeOfTrees_cons, Tree.size] at hFuel
      exact segment_generic h (hArguments.reads fuel (by omega) rest closing)
    | angles h hArguments =>
      simp only [sizeOfTrees_cons, Tree.size] at hFuel
      exact segment_angles h (hArguments.reads fuel (by omega) rest closing) (hArguments.startsWithMarks rest)
termination_by fuel

theorem WrittenSegments.reads {inExpression : Bool} {ts : List Tree} {ss : List Segment}
    (h : WrittenSegments inExpression ts ss) (fuel : Nat) (hFuel : 8 * sizeOfTrees ts + 1 ≤ fuel) {rest : List Tree}
    (hRest : Closed rest) (closing : Spot) :
    segments fuel inExpression ⟨ts ++ rest, closing⟩ = .ok (ss, ⟨rest, closing⟩) := by
  match fuel with
  | 0 => omega
  | fuel + 1 =>
    cases h with
    | last h => exact segments_last (h.reads fuel (by omega) hRest.endsSegment closing) hRest
    | @cons _ ts us s ss h first second joint hSegments =>
      simp only [sizeOfTrees_append, sizeOfTrees_cons, Tree.size] at hFuel
      have hSegment := h.reads fuel (by omega) (hSegments.endsSegment first second joint rest) closing
      have hGroup : (us ++ rest).head?.any (Tree.isGroup .paren) = false := by
        obtain ⟨spot, raw, text, behind, rfl, -⟩ := hSegments.head
        rfl
      rw [List.append_assoc]
      exact segments_cons hSegment hGroup (hSegments.reads fuel (by omega) hRest closing)
termination_by fuel

theorem WrittenPath.reads {inExpression : Bool} {ts : List Tree} {p : Path}
    (h : WrittenPath inExpression ts p) (fuel : Nat) (hFuel : 8 * sizeOfTrees ts + 2 ≤ fuel) {rest : List Tree}
    (hRest : Closed rest) (closing : Spot) :
    path fuel inExpression ⟨ts ++ rest, closing⟩ = .ok (p, ⟨rest, closing⟩) := by
  match fuel with
  | 0 => omega
  | fuel + 1 =>
    cases h with
    | names h => exact path_names h (h.reads fuel (by omega) hRest closing)
    | rooted h =>
      simp only [sizeOfTrees_cons, Tree.size] at hFuel
      exact path_rooted (h.reads fuel (by omega) hRest closing)
termination_by fuel

theorem WrittenTypeArgument.reads {ts : List Tree} {a : Option TypeExpr}
    (h : WrittenTypeArgument ts a) (fuel : Nat) (hFuel : 8 * sizeOfTrees ts + 6 ≤ fuel) {rest : List Tree}
    (hRest : Closed rest) (closing : Spot) :
    argument fuel ⟨ts ++ rest, closing⟩ = .ok (a, ⟨rest, closing⟩) := by
  cases h with
  | path h hLast =>
    match fuel with
    | fuel + 4 =>
      refine argument_path h ?_ hRest
      obtain ⟨spot, raw, text, behind, rfl, hName⟩ | ⟨spot, behind, rfl⟩ := h.head
      · have hRead := h.reads fuel (by omega) hRest closing
        exact typeExpr_name hName (pathType_path hLast hRead hRest)
      · have hRead := h.reads (fuel + 1) (by omega) hRest closing
        exact typeExpr_rooted (pathType_path hLast hRead hRest)
  | lifetime spot text =>
    match fuel with
    | fuel + 1 => exact argument_lifetime spot text hRest
  | literal spot l =>
    match fuel with
    | fuel + 1 => exact argument_literal spot l
termination_by fuel

theorem WrittenTypeArguments.reads {ts : List Tree} {as : List (Option TypeExpr)}
    (h : WrittenTypeArguments ts as) (fuel : Nat) (hFuel : 8 * sizeOfTrees ts ≤ fuel) (rest : List Tree)
    (closing : Spot) :
    arguments fuel ⟨ts ++ rest, closing⟩ = .ok (as, ⟨rest, closing⟩) := by
  have hPos := h.size_pos
  match fuel with
  | 0 => omega
  | fuel + 1 =>
    cases h with
    | nil spot joint => exact arguments_nil spot joint
    | @last ts a h spot joint =>
      simp only [sizeOfTrees_append, sizeOfTrees_cons, sizeOfTrees_nil, Tree.size] at hFuel
      rw [List.append_assoc]
      have hArgument := h.reads fuel (by omega) (.angle spot joint rest) closing
      exact arguments_last (h.startsWithMarks (by decide) _) hArgument
    | @cons ts us a as h spot joint hArguments =>
      simp only [sizeOfTrees_append, sizeOfTrees_cons, Tree.size] at hFuel
      rw [List.append_assoc]
      exact arguments_cons (h.startsWithMarks (by decide) _) (h.reads fuel (by omega) (.comma spot joint _) closing)
        (hArguments.reads fuel (by omega) rest closing)
termination_by fuel

end

end FieldRules.Source
