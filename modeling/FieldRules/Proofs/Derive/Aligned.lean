import FieldRules.Proofs.Declaration.Same
import FieldRules.Proofs.Derive.Executed
import FieldRules.Proofs.Derive.Items
import FieldRules.Proofs.Derive.Participants
import FieldRules.Proofs.Derive.Validator

/-!
# Code and the items it comes from

Constraints and validators are collected from items that are spread over the attributes of a field, fields
without rules are left out, and the code is written from a plan. Still the commands for a field are those that
its items ask for: in the order of the items, on that field, and with the function that the item is written with.
The one exception is a function behind a type in angle brackets: its path is called without the type.
-/
set_option autoImplicit false

namespace FieldRules.Derive

open Source

def itemsOf (f : Field) : List AttributeItem :=
  match writtenItems f.attributes with
  | .ok items => items
  | .error _ => []

/-- The function is the one in the text of an item, but for a function behind a type. -/
def AttributeItem.IsWrittenWith (i : AttributeItem) (function : List Tree) : Prop :=
  ∃ t, i.FunctionTerm t ∧ IsFunctionOf t.trees function

/-- What was read for a field stands beside the items that it was read from, and what was read together is of
the same length. -/
structure IsAligned (f : Field) (a : AnnotatedField) (d : FieldDeclaration) : Prop where
  items_eq : writtenItems f.attributes = .ok (itemsOf f)
  ident_eq : a.ident = f.ident
  name_eq : d.name = a.name
  constraints : List.Forall₂ (fun i c => constraintOf i = .ok c) (ofKind .constraint (itemsOf f)) d.constraints
  spots_eq : a.constraintSpots = (ofKind .constraint (itemsOf f)).map AttributeItem.spot
  spots_length : a.constraintSpots.length = d.constraints.length
  validators : List.Forall₂ (fun i w => ∃ path, validatorOf i = .ok (w, path)) (ofKind .validator (itemsOf f))
    d.validators
  paths : List.Forall₂ (fun i path => i.IsWrittenWith path.trees) (ofKind .validator (itemsOf f)) a.paths
  paths_length : a.paths.length = d.validators.length

/-- A check that an item of a field asks for. It looks at that field. -/
structure IsCheckOf (f : Field) (i : AttributeItem) (command : Command) : Prop where
  subject : command.subject? = some f.ident.spelling
  constraint : ∃ given check, constraintOf i = .ok given ∧ check.place = f.ident.spelling ∧ check.rule = given.rule ∧
    check.group = given.group ∧ check.severity = given.severity ∧ command.Follows (.check check)

/-- A call that an item of a field asks for, on that field. -/
inductive IsCallOf (f : Field) (i : AttributeItem) : Command → Prop where
  | custom {function : List Tree} (isAsync : Bool) (site : List Tree) (h : i.IsWrittenWith function) :
    IsCallOf f i (.custom isAsync function f.ident.spelling site)

/-- The commands for a field: those that its constraints ask for, then those that its validators ask for. -/
inductive IsBlockOf (f : Field) : List Command → Prop where
  | block {checks calls : List Command}
    (hChecks : List.Forall₂ (IsCheckOf f) (ofKind .constraint (itemsOf f)) checks)
    (hCalls : List.Forall₂ (IsCallOf f) (ofKind .validator (itemsOf f)) calls) :
    IsBlockOf f (checks ++ calls)

section Lists

variable {α β γ : Type} {R : α → β → Prop}

theorem exists_append_of_forall₂ {xs : List α} {ys zs : List β} (h : List.Forall₂ R xs (ys ++ zs)) :
    ∃ us vs, xs = us ++ vs ∧ List.Forall₂ R us ys ∧ List.Forall₂ R vs zs :=
  ⟨_, _, (List.take_append_drop ys.length xs).symm, List.forall₂_take_append xs ys zs h,
    List.forall₂_drop_append xs ys zs h⟩

theorem exists_flatten_of_forall₂ {pieces : γ → List β} {parts : List γ} {xs : List α}
    (h : List.Forall₂ R xs (parts.flatMap pieces)) :
    ∃ blocks, xs = blocks.flatten ∧
      List.Forall₂ (fun part block => List.Forall₂ R block (pieces part)) parts blocks := by
  induction parts generalizing xs with
  | nil =>
    cases h
    exact ⟨[], rfl, .nil⟩
  | cons part rest ih =>
    obtain ⟨block, _, rfl, hBlock, hRest⟩ := exists_append_of_forall₂ h
    obtain ⟨blocks, rfl, hBlocks⟩ := ih hRest
    exact ⟨block :: blocks, rfl, .cons hBlock hBlocks⟩

theorem forall₂_beside {S : γ → β → Prop} {xs : List α} {ys : List β} {zs : List γ} (h : List.Forall₂ R xs ys)
    (hBeside : List.Forall₂ S zs ys) : List.Forall₂ (fun x z => ∃ y, R x y ∧ S z y) xs zs := by
  induction h generalizing zs with
  | nil =>
    cases hBeside
    exact .nil
  | cons hFirst _ ih =>
    cases hBeside with
    | cons hHere hRest => exact .cons ⟨_, hFirst, hHere⟩ (ih hRest)

end Lists

theorem exists_additions {f : Field} (h : (readField f).2 = []) :
    writtenItems f.attributes = .ok (itemsOf f) ∧ ∃ x : Additions, x.Of (itemsOf f) ∧
      (readField f).1.constraints = x.constraints.map Prod.fst ∧
      (readField f).1.constraintSpots = x.constraints.map Prod.snd ∧
      (readField f).1.validators = x.validators.map Prod.fst ∧ (readField f).1.paths = x.validators.map Prod.snd := by
  have hRead : readField f = ((readField f).1, []) := Prod.ext rfl h
  obtain ⟨items, hItems, x, hx, -, hField⟩ := readField_eq_iff.mp hRead
  have hItemsOf : itemsOf f = items := by rw [itemsOf, hItems]
  rw [hItemsOf, hField]
  exact ⟨hItems, x, hx, rfl, rfl, rfl, rfl⟩

theorem exists_attribute_of_mem {attributes : List Attribute} {items : List AttributeItem}
    (h : writtenItems attributes = .ok items) {i : AttributeItem} (hi : i ∈ items) :
    ∃ a ∈ attributes, ∃ written, attributeItems a = .ok written ∧ i ∈ written := by
  obtain ⟨lists, hLists, rfl⟩ := bind_pure_eq_ok_iff.mp h
  obtain ⟨written, hWritten, hi⟩ := List.mem_flatten.mp hi
  obtain ⟨a, ha, hRead⟩ := exists_of_forall₂_right (mapM_eq_ok_iff.mp hLists) hWritten
  exact ⟨a, (List.mem_filter.mp ha).1, written, hRead, hi⟩

section Read

variable {f : Field} (h : (readField f).2 = [])

include h

theorem isWrittenWith_of_validatorOf {i : AttributeItem} (hi : i ∈ itemsOf f) {w : ValidatorRef} {path : Path}
    (hRead : validatorOf i = .ok (w, path)) : i.IsWrittenWith path.trees := by
  obtain ⟨a, -, written, hWritten, hItem⟩ := exists_attribute_of_mem (exists_additions h).1 hi
  exact exists_functionTerm hWritten hItem hRead

theorem forall₂_validatorOf :
    List.Forall₂ (fun i v => validatorOf i = .ok v ∧ i.IsWrittenWith v.2.trees) (ofKind .validator (itemsOf f))
      ((readField f).1.validators.zip (readField f).1.paths) := by
  obtain ⟨-, x, hx, -, -, hValidators, hPaths⟩ := exists_additions h
  rw [← List.zip_of_prod hValidators.symm hPaths.symm]
  refine (List.forall₂_iff_zip.mpr ⟨?_, fun {i v} hPair => ?_⟩)
  · exact (mapM_eq_ok_iff.mp hx.validators).length_eq
  · have hRead := List.forall₂_zip (mapM_eq_ok_iff.mp hx.validators) hPair
    exact ⟨hRead, isWrittenWith_of_validatorOf h (List.mem_filter.mp (List.of_mem_zip hPair).1).1 hRead⟩

theorem isAligned_readField : IsAligned f (readField f).1 (readField f).1.declaration := by
  obtain ⟨hItems, x, hx, hConstraints, hSpots, -, -⟩ := exists_additions h
  have hParallel := readField_isParallel f
  have hLocated := mapM_eq_ok_iff.mp hx.constraints
  have hPairs := forall₂_validatorOf h
  have hValidators : ((readField f).1.validators.zip (readField f).1.paths).map Prod.fst =
      (readField f).1.validators :=
    List.map_fst_zip (Nat.le_of_eq hParallel.paths.symm)
  have hPaths : ((readField f).1.validators.zip (readField f).1.paths).map Prod.snd = (readField f).1.paths :=
    List.map_snd_zip (Nat.le_of_eq hParallel.paths)
  refine
    { items_eq := hItems
      ident_eq := (readField_isOf f).ident_eq
      name_eq := rfl
      constraints := ?_
      spots_eq := ?_
      spots_length := hParallel.spots
      validators := ?_
      paths := ?_
      paths_length := hParallel.paths }
  · rw [AnnotatedField.declaration, hConstraints, List.forall₂_map_right_iff]
    refine hLocated.imp fun i c hc => ?_
    obtain ⟨given, hGiven, rfl⟩ := bind_pure_eq_ok_iff.mp hc
    exact hGiven
  · rw [hSpots]
    refine (map_eq_of_forall₂ hLocated fun i c hc => ?_).symm
    obtain ⟨given, -, rfl⟩ := bind_pure_eq_ok_iff.mp hc
    rfl
  · rw [AnnotatedField.declaration, ← hValidators, List.forall₂_map_right_iff]
    exact hPairs.imp fun i v hv => ⟨v.2, hv.1⟩
  · rw [← hPaths, List.forall₂_map_right_iff]
    exact hPairs.imp fun i v hv => hv.2

theorem isBlockOf_follow {m : AnnotatedModel} {block : List Command}
    (hFollow : List.Forall₂ Command.Follows block (Routine.fieldStatements m (readField f).1)) :
    IsBlockOf f block := by
  have hPlace : (readField f).1.ident.spelling = f.ident.spelling :=
    congrArg Ident.spelling (readField_isOf f).ident_eq
  obtain ⟨checks, calls, rfl, hChecks, hCalls⟩ := exists_append_of_forall₂ hFollow
  refine .block ?_ ?_
  · rw [List.forall₂_map_right_iff] at hChecks
    refine (forall₂_beside (isAligned_readField h).constraints hChecks).imp ?_
    rintro i command ⟨c, hc, hCommand⟩
    refine ⟨?_, c, _, hc, hPlace, rfl, rfl, rfl, hCommand⟩
    cases hCommand with
    | check hSubject hRun => exact hSubject.trans (congrArg some hPlace)
  · rw [List.forall₂_map_right_iff] at hCalls
    refine (forall₂_beside (forall₂_validatorOf h) hCalls).imp ?_
    rintro i command ⟨v, ⟨-, hWritten⟩, hCommand⟩
    rw [hPlace] at hCommand
    cases hCommand with
    | custom => exact .custom _ _ hWritten

end Read

/-- The commands for a structure: sanitizers, then a block for each field that is written, then the hook. -/
inductive AreCommandsFor (written : List Field) : List Command → Prop where
  | commands {front back : List Command} {blocks : List (List Command)}
    (hFront : ∀ command ∈ front, ∃ place directive, command = .sanitize place directive)
    (hBlocks : List.Forall₂ IsBlockOf written blocks)
    (hBack : ∀ command ∈ back, ∃ function, command = .hook function) :
    AreCommandsFor written (front ++ blocks.flatten ++ back)

theorem areCommandsFor_follow {m : AnnotatedModel} {written : List Field}
    (hRead : ∀ f ∈ written, (readField f).2 = []) (hFields : m.fields = written.map fun f => (readField f).1)
    {commands : List Command} (h : List.Forall₂ Command.Follows commands (Routine.ofModel m).statements) :
    AreCommandsFor written commands := by
  have hParallel : ∀ a ∈ m.fields, a.IsParallel := by
    rw [hFields]
    exact List.forall_mem_map.mpr fun f _ => readField_isParallel f
  rw [Routine.statements_ofModel hParallel, hFields, List.flatMap_map] at h
  obtain ⟨_, back, rfl, h, hBack⟩ := exists_append_of_forall₂ h
  obtain ⟨front, middle, rfl, hFront, hMiddle⟩ := exists_append_of_forall₂ h
  obtain ⟨blocks, rfl, hBlocks⟩ := exists_flatten_of_forall₂ hMiddle
  refine .commands (fun command hCommand => ?_) ?_ fun command hCommand => ?_
  · obtain ⟨s, hs, hFollows⟩ := exists_of_forall₂_right hFront.flip hCommand
    obtain ⟨step, -, hStep⟩ := List.mem_filterMap.mp hs
    obtain ⟨place, -, rfl⟩ := Option.map_eq_some_iff.mp hStep
    cases hFollows
    exact ⟨_, _, rfl⟩
  · rw [List.forall₂_iff_zip] at hBlocks ⊢
    refine ⟨hBlocks.1, fun {f block} hPair => ?_⟩
    exact isBlockOf_follow (hRead f (List.of_mem_zip hPair).1) (hBlocks.2 hPair)
  · obtain ⟨s, hs, hFollows⟩ := exists_of_forall₂_right hBack.flip hCommand
    obtain ⟨function, -, rfl⟩ := Option.map_eq_some_iff.mp (Option.mem_toList.mp hs)
    cases hFollows
    exact ⟨_, rfl⟩

/-- What was read for an accepted structure, and each command in the code for it, stands beside the item that asks
for it. All code between the brackets reads as such commands, so none of it stops the compiler. -/
theorem code_follows_items {i : Item} {fields : List Field} {m : AnnotatedModel} (hBody : i.body = .named fields)
    (hModel : AnnotatedModel.ofItem i = .ok m) :
    ∃ written, written.Sublist fields ∧ m.fields.length = m.declaration.fields.length ∧
      List.Forall₂ (fun f e => IsAligned f e.1 e.2) written (m.fields.zip m.declaration.fields) ∧
      ∃ p commands, Code.derived i = Code.validation m p ++ Code.record m ∧
        (bodyOf? "validate" (Code.validation m p)).bind commands? = some commands ∧
        AreCommandsFor written commands ∧
        bodyOf? "validate" (Code.validation m p) = some (Code.validateBody (.ofPlan m p)) ∧
        ∀ validator, Statement.missing validator ∉ (Routine.ofPlan m p).statements := by
  obtain ⟨named, hNamed, hFields⟩ := AnnotatedModel.ofItem_eq_ok hModel
  obtain rfl : fields = named := by
    rw [hBody] at hNamed
    cases hNamed
    rfl
  obtain ⟨hReads, hUnchecked, -⟩ := (AnnotatedModel.ofFields_eq_ok_iff i fields m).mp hFields
  let written := fields.filter fun f => TakesPart fields f
  have hWritten : m.fields = written.map fun f => (readField f).1 := by rw [hUnchecked, fields_unchecked]
  have hRead (f : Field) (hf : f ∈ written) : (readField f).2 = [] := hReads.fields f (List.mem_filter.mp hf).1
  obtain ⟨commands, hCommands, hFollow⟩ := commands?_follow (readsBack_statements hModel)
  refine ⟨written, List.filter_sublist, (List.length_map ..).symm, ?_, .ofDeclaration m.declaration, commands, ?_, ?_,
    areCommandsFor_follow hRead hWritten hFollow, Code.bodyOf?_validate ..,
    fun _ hMissing => readsBack_statements hModel _ hMissing⟩
  · rw [AnnotatedModel.declaration, hWritten, List.map_map, List.zip_map', List.forall₂_map_right_iff,
      List.forall₂_same]
    exact fun f hf => isAligned_readField (hRead f hf)
  · rw [Code.derived, hModel]
    rfl
  · rw [Code.bodyOf?_validate, Option.bind_some]
    exact hCommands

theorem code_follows_items_of_signup : ∃ m, AnnotatedModel.ofItem (Signup.item []) = .ok m ∧
    ∃ written, written.Sublist Signup.fields ∧
      List.Forall₂ (fun f e => IsAligned f e.1 e.2) written (m.fields.zip m.declaration.fields) ∧
      ∃ p commands, (bodyOf? "validate" (Code.validation m p)).bind commands? = some commands ∧
        AreCommandsFor written commands := by
  obtain ⟨m, hModel, -⟩ : ∃ m, AnnotatedModel.ofItem (Signup.item []) = .ok m ∧ Signup.IsModel m none :=
    Signup.exists_model (by decide +kernel)
  obtain ⟨written, hWritten, -, hAligned, p, commands, -, hCommands, hFor, -⟩ := code_follows_items rfl hModel
  exact ⟨m, hModel, written, hWritten, hAligned, p, commands, hCommands, hFor⟩

/-! A structure with a function behind a type. -/

namespace Voucher

def unique : List Tree :=
  word "Rules" ++ punct "::" ++ word "unique"

def written : List Tree :=
  punct "<" ++ word "Checks" ++ word "as" ++ word "Rules" ++ punct ">" ++ punct "::" ++ word "unique"

def code : Field :=
  { attributes := [Signup.rules (Signup.given "custom" written)]
    ident := ⟨.start, false, "code"⟩
    type := .path "String" [] }

def voucher : Item :=
  { attributes := []
    ident := ⟨.start, false, "Voucher"⟩
    generics := ⟨[], []⟩
    body := .named [code] }

theorem not_spelledFunction : ¬ SpelledFunction written unique := by
  intro h
  generalize hWritten : written = trees at h
  generalize hUnique : unique = function at h
  cases h with
  | bare =>
    -- the one starts with a mark, the other with a name
    cases congrArg List.head? (hWritten.trans hUnique.symm)
  | text | grouped => cases congrArg List.length hWritten

end Voucher

set_option maxRecDepth 10000 in
/-- The type that a function belongs to is left out of the code. -/
theorem code_dropsType : ∃ m item t site,
    AnnotatedModel.ofItem Voucher.voucher = .ok m ∧ ofKind .validator (itemsOf Voucher.code) = [item] ∧
    item.content = .value t ∧ t.trees = Voucher.written ∧
    (bodyOf? "validate" (Code.validation m (.ofDeclaration m.declaration))).bind commands? =
      some [.custom false Voucher.unique "code" site] ∧
    ¬ SpelledFunction Voucher.written Voucher.unique := by
  obtain ⟨m, hModel, hCommands⟩ := AnnotatedModel.exists_of_toOption (i := Voucher.voucher)
    (f := fun m => (bodyOf? "validate" (Code.validation m (.ofDeclaration m.declaration))).bind commands?)
    (a := some [.custom false Voucher.unique "code" (Code.site ⟨"Voucher", "code", "code", "Rules::unique"⟩)]) rfl
  exact ⟨m, _, _, _, hModel, rfl, rfl, rfl, hCommands, Voucher.not_spelledFunction⟩

end FieldRules.Derive
