import FieldRules.Derive.Code
import FieldRules.Proofs.Source.Pieces

/-!
# Commands in generated code

The body of a validation in generated code is cut into statements, and each statement is read as a command: the
functions of the library are told by their paths, and what they are called with stays as it is written.
-/
set_option autoImplicit false

namespace FieldRules.Derive

open Source

/-- A call of a function of the rules, which may be negated. -/
structure Test where
  negated : Bool
  function : String
  arguments : List (List Tree)

inductive Command where
  | sanitize (place : String) (directive : List Tree)
  /-- Adds the entry that is made of some arguments if all tests hold. -/
  | check (tests : List Test) (entry : List (List Tree))
  | custom (isAsync : Bool) (function : List Tree) (place : String) (site : List Tree)
  | hook (function : List Tree)

def placeRef? : List Tree → Option String
  | [.mark _ '&' _, .name _ false "self", .mark _ '.' _, .name _ false place] => some place
  | _ => none

def placeMut? : List Tree → Option String
  | [.mark _ '&' _, .name _ false "mut", .name _ false "self", .mark _ '.' _, .name _ false place] => some place
  | _ => none

namespace Test

def ofCall? (negated : Bool) (trees : List Tree) : Option Test :=
  match Form.ofTrees? trees with
  | some (.call ["precheck", "rules", function] arguments) => some ⟨negated, function, arguments⟩
  | _ => none

def ofTrees? : List Tree → Option Test
  | .mark _ '!' _ :: trees => ofCall? true trees
  | trees => ofCall? false trees

end Test

namespace Command

/-- The place that a command is about. A check is about what its last test looks at. -/
def subject? : Command → Option String
  | sanitize place _ => some place
  | check tests _ => (tests.getLast?.bind fun t => t.arguments.head?).bind placeRef?
  | custom _ _ place _ => some place
  | hook _ => none

def sanitizeOf? : List (List Tree) → Option Command
  | [subject, .mark _ '&' _ :: directive] => (placeMut? subject).map fun place => sanitize place directive
  | _ => none

def entryOf? (trees : List Tree) : Option (List (List Tree)) :=
  match Form.ofTrees? trees with
  | some (.call ["precheck", "ValidationError", "new"] arguments) => some arguments
  | _ => none

def pushedOf? : List Tree → Option (List (List Tree))
  | [.name _ false "__result", .mark _ '.' _, .name _ false "push", .group _ _ .paren content, .mark _ ';' _] =>
    entryOf? content
  | _ => none

def checkOf? (trees : List Tree) : Option Command :=
  match trees.getLast? with
  | some (.group _ _ .brace block) => do
    let tests ← (conjuncts trees.dropLast).mapM Test.ofTrees?
    let entry ← pushedOf? block
    some (check tests entry)
  | _ => none

/-- A custom call from its arguments. They are counted from the end, for a function may have commas. -/
def customOf? (isAsync : Bool) (content : List Tree) : Option Command := do
  let (content, result) ← cutLast? content
  let (content, site) ← cutLast? content
  let (content, context) ← cutLast? content
  let (function, subject) ← cutLast? content
  let place ← placeRef? subject
  match context, site, result with
  | [.name _ false "__ctx"], .mark _ '&' _ :: site, [.mark _ '&' _, .name _ false "mut", .name _ false "__result"] =>
    some (custom isAsync function place site)
  | _, _, _ => none

def hookOf? (content : List Tree) : Option Command :=
  match pathNames content with
  | (["precheck", "__private", "run_hook"], [.group _ _ .paren arguments]) => do
    let (content, context) ← cutLast? arguments
    let (function, subject) ← cutLast? content
    match subject, context with
    | [.mark _ '&' _, .mark _ '*' _, .name _ false "self"], [.name _ false "__ctx"] => some (hook function)
    | _, _ => none
  | _ => none

def ofTrees? : List Tree → Option Command
  | .name _ false "if" :: trees => checkOf? trees
  | [.name _ false "__result", .mark _ '.' _, .name _ false "extend", .group _ _ .paren content, .mark _ ';' _] =>
    hookOf? content
  | trees =>
    match pathNames trees with
    | (["precheck", "FieldValue", "sanitize"], [.group _ _ .paren content, .mark _ ';' _]) =>
      sanitizeOf? (parts content)
    | (["precheck", "__private", "run_sync_custom"], [.group _ _ .paren content, .mark _ ';' _]) =>
      customOf? false content
    | (["precheck", "__private", "run_async_custom"],
        [.group _ _ .paren content, .mark _ '.' _, .name _ false "await", .mark _ ';' _]) => customOf? true content
    | _ => none

end Command

/-- Whether a statement declares the result, which is empty at first. -/
def declaresResult : List Tree → Bool
  | .mark _ '#' _ :: .group _ _ .bracket _ :: .name _ false "let" :: .name _ false "mut" ::
      .name _ false "__result" :: .mark _ '=' _ :: value =>
    match pathNames value with
    | (["precheck", "ValidationResult", "new"], [.group _ _ .paren [], .mark _ ';' _]) => true
    | _ => false
  | _ => false

/-- The commands between the declaration of the result and its return, in a block that is boxed. -/
def commands? (body : List Tree) : Option (List Command) :=
  match pathNames body with
  | (["std", "boxed", "Box", "pin"],
      [.group _ _ .paren [.name _ false "async", .name _ false "move", .group _ _ .brace block]]) =>
    match cut endsStatement [] block with
    | (first :: others, [.name _ false "__result"]) =>
      if declaresResult first then others.mapM Command.ofTrees? else none
    | _ => none
  | _ => none

namespace Code

theorem isSeamless_call (names : List String) (arguments : List (List Tree)) :
    IsSeamless (call (rooted names) arguments) :=
  (IsSeamless.rooted names).append (.single rfl)

theorem isSeamless_negated_verdict (value sibling : List Tree) (r : Rule) :
    IsSeamless (negated (verdict value sibling r)) := by
  have hMark : IsSeamless (punct "!") := .single rfl
  cases r <;> exact hMark.append (isSeamless_call _ _)

theorem runs_condition (c : Check) (piece : List Tree) : Runs endsStatement piece (condition c) := by
  have hFailed := isSeamless_negated_verdict (placeRef c.place) (sibling c.sibling) c.rule
  rw [condition]
  cases c.group with
  | none => exact hFailed.runsStatement piece
  | some group =>
    have hGroup := isSeamless_call (library ["rules", "group_matches"])
      [someOf (textLiteral group), method context "active_group"]
    have hAnd (piece : List Tree) : Runs endsStatement piece (punct "&&") := ⟨rfl, rfl, trivial⟩
    exact ((hGroup.runsStatement piece).append (hAnd _)).append (hFailed.runsStatement _)

theorem exists_piece (s : Statement) :
    ∃ front last, statement s = front ++ [last] ∧ Runs endsStatement [] front ∧ endsStatement front last = true := by
  cases s with
  | sanitize place directive =>
    exact ⟨_, _, rfl, (isSeamless_call _ _).runsStatement [], rfl⟩
  | check c =>
    refine ⟨word "if" ++ condition c, _, rfl, ?_, rfl⟩
    have hIf : IsSeamless (word "if") := .single rfl
    exact (hIf.runsStatement []).append (runs_condition c _)
  | call place function site isAsync =>
    refine ⟨_, _, rfl, ?_, rfl⟩
    have hAwait : IsSeamless (if isAsync then punct "." ++ word "await" else []) := by
      cases isAsync with
      | true => exact IsSeamless.append (.single rfl) (.single rfl)
      | false => exact fun t ht => absurd ht List.not_mem_nil
    exact ((isSeamless_call _ _).append hAwait).runsStatement []
  | missing validator =>
    refine ⟨_, _, rfl, ?_, rfl⟩
    have hMark : IsSeamless (punct "!") := .single rfl
    exact ((IsSeamless.rooted _).append hMark).append (.single rfl) |>.runsStatement []
  | hook function => exact ⟨_, _, rfl, ⟨rfl, rfl, rfl, rfl, trivial⟩, rfl⟩

theorem cut_statements (statements : List Statement) {tail : List Tree} (hTail : Runs endsStatement [] tail) :
    cut endsStatement [] (statements.flatMap statement ++ tail) = (statements.map statement, tail) := by
  induction statements with
  | nil =>
    have hCut := hTail.cut_append []
    rwa [List.append_nil] at hCut
  | cons s rest ih =>
    obtain ⟨front, last, hPiece, hRuns, hLast⟩ := exists_piece s
    rw [List.flatMap_cons, List.append_assoc, hPiece, hRuns.cut_piece hLast, ih, List.map_cons, hPiece]

theorem commands?_validateBody (r : Routine) :
    commands? (validateBody r) = r.statements.mapM fun s => Command.ofTrees? (statement s) := by
  let start := punct "#" ++ brackets (word "allow" ++ parens (word "unused_mut")) ++ word "let" ++ word "mut" ++
    result ++ punct "=" ++ libraryPath ["ValidationResult", "new"] ++ parens []
  let block := start ++ punct ";" ++ r.statements.flatMap statement ++ result
  have hPath : pathNames (validateBody r) = (["std", "boxed", "Box", "pin"],
      [.group .start .start .paren [.name .start false "async", .name .start false "move",
        .group .start .start .brace block]]) := rfl
  have hCut : cut endsStatement [] block = ((start ++ punct ";") :: r.statements.map statement, result) := by
    have hStart : Runs endsStatement [] start :=
      ⟨rfl, rfl, rfl, rfl, rfl, rfl, rfl, rfl, rfl, rfl, rfl, rfl, rfl, rfl, rfl, rfl, trivial⟩
    have hEnd : endsStatement start (.mark .start ';' false) = true := rfl
    have hResult : Runs endsStatement [] result := ⟨rfl, trivial⟩
    have hPiece := hStart.cut_piece hEnd (r.statements.flatMap statement ++ result)
    rw [cut_statements r.statements hResult, ← List.append_assoc] at hPiece
    exact hPiece
  have hDeclares : declaresResult (start ++ punct ";") = true := rfl
  have hRead : commands? (validateBody r) = (r.statements.map statement).mapM Command.ofTrees? := by
    simp only [commands?, hPath, hCut]
    exact if_pos hDeclares
  rw [hRead]
  simp [Function.comp_def]

end Code
end FieldRules.Derive
