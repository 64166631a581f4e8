import FieldRules.Proofs.Derive.Arguments
import FieldRules.Proofs.Source.Functions

/-!
# Items of custom validators

A custom validator is read from the path of a function, alone or among arguments.
-/
set_option autoImplicit false

namespace FieldRules.Derive

open Source

/-- The term that names the function in an item of a custom validator: its value, or the argument for the function. -/
inductive AttributeItem.FunctionTerm (i : AttributeItem) (t : Term) : Prop where
  | value (hContent : i.content = .value t)
  | argument {arguments : List Argument} {name : Ident} (hContent : i.content = .arguments arguments)
    (hArgument : .named name t ∈ arguments) (hName : name.spelling = "function")

section Read

open Parsing

variable {s u : Input} {t : Term}

theorem exists_of_mem_separated {α : Type} {item : Parsing α} {fuel : Nat} {as : List α}
    (h : separated fuel item s = .ok (as, u)) {a : α} (ha : a ∈ as) : ∃ v w, item v = .ok (a, w) := by
  induction fuel generalizing s as with
  | zero =>
    cases h
    cases ha
  | succ fuel ih =>
    rw [separated, isDone_bind, ite_run] at h
    split at h
    · cases h
      cases ha
    obtain ⟨first, v, hFirst, h⟩ := exists_of_bind h
    rw [isDone_bind, ite_run] at h
    split at h
    · cases h
      obtain rfl := List.mem_singleton.mp ha
      exact ⟨s, _, hFirst⟩
    obtain ⟨-, h⟩ := expectMarks_eq_ok h
    obtain ⟨later, _, hLater, h⟩ := exists_of_bind h
    cases h
    rcases List.mem_cons.mp ha with rfl | ha
    · exact ⟨s, v, hFirst⟩
    · exact ih hLater ha

theorem term_isFunctionOf (h : term s = .ok (t, u)) {path : Path} (hPath : t.expr.functionPath = .ok path) :
    IsFunctionOf t.trees path.trees := by
  rw [term] at h
  obtain ⟨⟨e, trees⟩, v, hTaken, h⟩ := exists_of_bind h
  cases h
  obtain ⟨hRead, rfl⟩ := taken_eq_ok hTaken
  rw [expression, rest_bind] at hRead
  exact expr_isFunctionOf hRead hPath

theorem exists_term_of_argument {name : Ident} (h : argument s = .ok (.named name t, u)) :
    ∃ v, term v = .ok (t, u) := by
  have hPositional (h : (Argument.positional <$> term) s = .ok (.named name t, u)) : ∃ v, term v = .ok (t, u) := by
    rw [← bind_pure_comp] at h
    obtain ⟨_, _, -, h⟩ := exists_of_bind h
    cases h
  rw [argument, rest_bind, ite_run] at h
  split at h
  · exact hPositional h
  cases hTrees : s.trees with
  | nil =>
    rw [hTrees] at h
    exact hPositional h
  | cons tree behind =>
    rw [hTrees] at h
    cases tree with
    | name spot raw text =>
      dsimp only at h
      rw [ite_run] at h
      split at h
      · rw [advance_bind] at h
        obtain ⟨_, v, hTerm, h⟩ := exists_of_bind h
        cases h
        exact ⟨_, hTerm⟩
      rw [ite_run] at h
      split at h
      · exact hPositional h
      · cases h
    | mark | lifetime | literal | group => exact hPositional h

theorem exists_term_of_attributeItem {i : AttributeItem} (h : attributeItem s = .ok (i, u)) (ht : i.FunctionTerm t) :
    ∃ v w, term v = .ok (t, w) := by
  rw [attributeItem] at h
  obtain ⟨name, v, -, h⟩ := exists_of_bind h
  rw [acceptMarks_bind] at h
  split at h
  · obtain ⟨value, w, hTerm, h⟩ := exists_of_bind h
    cases h
    cases ht with
    | value hContent =>
      cases hContent
      exact ⟨_, _, hTerm⟩
    | argument hContent => cases hContent
  have hNothing (h : (pure ⟨name, .nothing⟩ : Parsing AttributeItem) v = .ok (i, u)) : ∃ v w, term v = .ok (t, w) := by
    cases h
    cases ht <;> contradiction
  rw [if_neg (by decide), peek_bind] at h
  cases hTrees : v.trees with
  | nil =>
    rw [hTrees] at h
    exact hNothing h
  | cons tree rest =>
    rw [hTrees, List.head?_cons] at h
    cases tree with
    | name | mark | lifetime | literal => exact hNothing h
    | group opening closing delimiter content =>
      cases delimiter with
      | bracket | brace | invisible => exact hNothing h
      | paren =>
        dsimp only at h
        rw [advance_bind] at h
        obtain ⟨arguments, w, hInside, h⟩ := exists_of_bind h
        cases h
        obtain ⟨-, left, hRead, -⟩ := inside_eq_ok hInside
        rw [separatedToEnd, rest_bind] at hRead
        cases ht with
        | value hContent => cases hContent
        | argument hContent hArgument =>
          cases hContent
          obtain ⟨x, y, hRead⟩ := exists_of_mem_separated hRead hArgument
          obtain ⟨z, hTerm⟩ := exists_term_of_argument hRead
          exact ⟨z, y, hTerm⟩

theorem exists_term_of_attributeItems {a : Attribute} {items : List AttributeItem} (h : attributeItems a = .ok items)
    {i : AttributeItem} (hi : i ∈ items) (ht : i.FunctionTerm t) : ∃ v w, term v = .ok (t, w) := by
  rw [attributeItems] at h
  split at h
  · obtain ⟨left, hRead, -⟩ := run_eq_ok h
    rw [separatedToEnd, rest_bind] at hRead
    obtain ⟨v, w, hItem⟩ := exists_of_mem_separated hRead hi
    exact exists_term_of_attributeItem hItem ht
  · cases h
  · cases h

end Read

namespace Arguments

/-- The reference to a validator that arguments make, and the path of its function. -/
structure Refers (a : Arguments) (w : ValidatorRef) (path : Path) : Prop where
  function : a.Gives "function" Expr.functionPath (some path)
  name : ∃ name, a.Gives "name" Expr.text name ∧ w.name = name.getD path.spelling
  isAsync : w.isAsync = a.flags.any (·.text == "async")

def validatorNames : List String :=
  ["function", "name"]

end Arguments

theorem Finds.takeFlag (name : String) :
    Finds (modifyGet (Arguments.takeFlag name)) (fun a b => b = a.flags.any (·.text == name))
      fun a => { a with flags := a.flags.eraseP (·.text == name) } := by
  intro a b rest
  constructor
  · rintro ⟨⟩
    exact ⟨rfl, rfl⟩
  · rintro ⟨rfl, rfl⟩
    rfl

theorem validatorOf_arguments_iff {i : AttributeItem} {arguments : List Argument}
    (hContent : i.content = .arguments arguments) (w : ValidatorRef) (path : Path) :
    validatorOf i = .ok (w, path) ↔ (Arguments.ofList arguments).Refers w path ∧
      ({ (Arguments.ofList arguments).without Arguments.validatorNames with
        flags := (Arguments.ofList arguments).flags.eraseP (·.text == "async") } : Arguments).IsEmpty := by
  have hArguments : i.arguments = arguments := by rw [AttributeItem.arguments, hContent]
  have hName (path : Path) := Finds.bind (.named? "name" Expr.text) (fun name =>
    Finds.map (.takeFlag "async") fun isAsync =>
      ((⟨name.getD path.spelling, isAsync⟩, path) : ValidatorRef × Path)) (fun _ _ _ => Iff.rfl)
  unfold validatorOf
  rw [hContent]
  dsimp only
  rw [← hArguments]
  refine Finds.readArguments_eq_ok_iff (P := fun a r => a.Refers r.1 r.2) (L := fun a =>
    { a.without Arguments.validatorNames with flags := a.flags.eraseP (·.text == "async") }) ?_ i (w, path)
  refine .congr (.bind (.named? "function" Expr.functionPath)
    (Q := fun found a r => found = some r.2 ∧ ∃ name, a.Gives "name" Expr.text name ∧
      r.1 = ⟨name.getD r.2.spelling, a.flags.any (·.text == "async")⟩)
    (M := fun a => { a.without ["name"] with flags := a.flags.eraseP (·.text == "async") })
    (fun found => ?_) fun found a r => ?_) fun a r => ?_
  · cases found with
    | none =>
      exact .congr (.refused i _) fun a r => ⟨nofun, nofun⟩
    | some path =>
      refine .congr (hName path) fun a r => ⟨?_, ?_⟩
      · rintro ⟨name, hGives, _, rfl, rfl⟩
        exact ⟨rfl, name, hGives, rfl⟩
      · rintro ⟨⟨⟩, name, hGives, hRef⟩
        exact ⟨name, hGives, _, rfl, Prod.ext hRef rfl⟩
  · simp only [Arguments.gives_without, List.mem_singleton, String.reduceEq, not_false_eq_true]
    rfl
  · constructor
    · rintro ⟨_, hPath, rfl, name, hName, hRef⟩
      exact ⟨hPath, ⟨name, hName, congrArg ValidatorRef.name hRef⟩, congrArg ValidatorRef.isAsync hRef⟩
    · obtain ⟨⟨_, _⟩, path⟩ := r
      rintro ⟨hPath, ⟨name, hName, hSame⟩, hAsync⟩
      exact ⟨_, hPath, rfl, name, hName, ValidatorRef.mk.injEq .. ▸ ⟨hSame, hAsync⟩⟩

theorem exists_term_of_validatorOf {i : AttributeItem} {w : ValidatorRef} {path : Path}
    (h : validatorOf i = .ok (w, path)) : ∃ t, i.FunctionTerm t ∧ t.expr.functionPath = .ok path := by
  cases hContent : i.content with
  | nothing =>
    rw [validatorOf, hContent] at h
    cases h
  | value t =>
    rw [validatorOf, hContent] at h
    obtain ⟨_, hPath, hRef⟩ := bind_pure_eq_ok_iff.mp h
    cases hRef
    exact ⟨t, .value hContent, hPath⟩
  | arguments arguments =>
    obtain ⟨⟨hFunction, -, -⟩, -⟩ := (validatorOf_arguments_iff hContent w path).mp h
    obtain ⟨e, hValue, hPath⟩ := Arguments.gives_some_iff.mp hFunction
    obtain ⟨ident, hNamed, hName⟩ := Arguments.exists_of_value?_eq_some hValue
    obtain ⟨argument, hArgument, hOf⟩ := List.mem_filterMap.mp hNamed
    cases argument with
    | named name t =>
      cases hOf
      exact ⟨t, .argument hContent hArgument hName, hPath⟩
    | flag | positional => cases hOf

/-- The function of a validator has the trees that its item is written with, but for a path behind a type. -/
theorem exists_functionTerm {a : Attribute} {items : List AttributeItem} (hItems : attributeItems a = .ok items)
    {i : AttributeItem} (hi : i ∈ items) {w : ValidatorRef} {path : Path} (h : validatorOf i = .ok (w, path)) :
    ∃ t, i.FunctionTerm t ∧ IsFunctionOf t.trees path.trees := by
  obtain ⟨t, hTerm, hPath⟩ := exists_term_of_validatorOf h
  obtain ⟨v, w, hRead⟩ := exists_term_of_attributeItems hItems hi hTerm
  exact ⟨t, hTerm, term_isFunctionOf hRead hPath⟩

end FieldRules.Derive
