import FieldRules.Proofs.Derive.Model

/-!
# Items of fields

What the items of a field make of it. Items of one kind do not see those of another, so a field is put together from
the items of each kind on their own: the last name counts, there is at most one directive, and validators and
constraints are added in order.
-/
set_option autoImplicit false

namespace FieldRules.Derive

open Source

def writtenItems (attributes : List Attribute) : Reading (List AttributeItem) := do
  return (← (attributes.filter (·.isNamed attributeName)).mapM attributeItems).flatten

section Applied

variable {σ ι : Type}

/-- Steps that leave a diagnostic whenever they refuse, and never take one back, refuse nothing exactly if all of
them succeed. -/
theorem foldl_refusing_iff {step : σ × List Diagnostic → ι → σ × List Diagnostic} {next : σ → ι → Reading σ}
    (hStep : ∀ s refused i t, step (s, refused) i = (t, []) ↔ next s i = .ok t ∧ refused = [])
    {items : List ι} {s t : σ} {refused : List Diagnostic} :
    items.foldl step (s, refused) = (t, []) ↔ items.foldlM next s = .ok t ∧ refused = [] := by
  induction items generalizing s refused with
  | nil =>
    rw [List.foldl_nil, Prod.mk.injEq]
    exact and_congr_left' ⟨congrArg Except.ok, Except.ok.inj⟩
  | cons i rest ih =>
    obtain ⟨⟨middle, after⟩, hMiddle⟩ : ∃ r, step (s, refused) i = r := ⟨_, rfl⟩
    rw [List.foldl_cons, hMiddle, ih, List.foldlM_cons, bind_eq_ok_iff]
    constructor
    · rintro ⟨hRest, rfl⟩
      obtain ⟨hHere, hRefused⟩ := (hStep s refused i middle).mp hMiddle
      exact ⟨⟨middle, hHere, hRest⟩, hRefused⟩
    · rintro ⟨⟨other, hHere, hRest⟩, hRefused⟩
      cases hMiddle.symm.trans ((hStep s refused i other).mpr ⟨hHere, hRefused⟩)
      exact ⟨hRest, rfl⟩

variable {apply : σ → AttributeItem → Reading σ}

theorem applyOne_eq_iff (s : σ) (refused : List Diagnostic) (i : AttributeItem) (t : σ) :
    applyItems.applyOne apply (s, refused) i = (t, []) ↔ apply s i = .ok t ∧ refused = [] := by
  rw [applyItems.applyOne]
  cases apply s i with
  | ok next => simp
  | error d => simp

theorem applyAttribute_eq_iff (s : σ) (refused : List Diagnostic) (a : Attribute) (t : σ) :
    applyItems.applyAttribute apply (s, refused) a = (t, []) ↔
      (attributeItems a >>= fun items => items.foldlM apply s) = .ok t ∧ refused = [] := by
  rw [applyItems.applyAttribute]
  cases attributeItems a with
  | ok items => exact foldl_refusing_iff applyOne_eq_iff
  | error d =>
    constructor
    · intro h
      exact absurd (congrArg Prod.snd h) (List.append_ne_nil_of_right_ne_nil _ (List.cons_ne_nil d []))
    · rintro ⟨⟨⟩, -⟩

theorem foldlM_attributes_iff {attributes : List Attribute} {s t : σ} :
    attributes.foldlM (fun s a => attributeItems a >>= fun items => items.foldlM apply s) s = .ok t ↔
      ∃ lists, attributes.mapM attributeItems = .ok lists ∧ lists.flatten.foldlM apply s = .ok t := by
  induction attributes generalizing s with
  | nil =>
    constructor
    · exact fun h => ⟨[], rfl, h⟩
    · rintro ⟨_, ⟨⟩, h⟩
      exact h
  | cons a rest ih =>
    simp only [List.foldlM_cons, List.mapM_cons, bind_eq_ok_iff, ih]
    constructor
    · rintro ⟨middle, ⟨items, hItems, hHere⟩, lists, hLists, hRest⟩
      refine ⟨_, ⟨items, hItems, lists, hLists, rfl⟩, ?_⟩
      rw [List.flatten_cons, List.foldlM_append, bind_eq_ok_iff]
      exact ⟨middle, hHere, hRest⟩
    · rintro ⟨_, ⟨items, hItems, lists, hLists, ⟨⟩⟩, hAll⟩
      rw [List.flatten_cons, List.foldlM_append, bind_eq_ok_iff] at hAll
      obtain ⟨middle, hHere, hRest⟩ := hAll
      exact ⟨middle, ⟨items, hItems, hHere⟩, lists, hLists, hRest⟩

/-- Nothing is refused exactly if all items can be read and applied one after another. -/
theorem applyItems_eq_iff {start t : σ} {attributes : List Attribute} :
    applyItems apply start attributes = (t, []) ↔
      ∃ items, writtenItems attributes = .ok items ∧ items.foldlM apply start = .ok t := by
  rw [applyItems, foldl_refusing_iff applyAttribute_eq_iff, foldlM_attributes_iff, writtenItems]
  simp only [bind_pure_eq_ok_iff, and_true]
  constructor
  · rintro ⟨lists, hLists, hRun⟩
    exact ⟨_, ⟨lists, hLists, rfl⟩, hRun⟩
  · rintro ⟨_, ⟨lists, hLists, rfl⟩, hRun⟩
    exact ⟨lists, hLists, hRun⟩

end Applied

inductive ItemKind where
  | name
  | displayName
  | directive
  | validator
  | constraint
  deriving DecidableEq

/-- An item whose name is not that of another kind declares a constraint. -/
def AttributeItem.kind (i : AttributeItem) : ItemKind :=
  match i.label with
  | "rename" => .name
  | "display_name" => .displayName
  | "sanitize" => .directive
  | "custom" => .validator
  | _ => .constraint

def ofKind (kind : ItemKind) (items : List AttributeItem) : List AttributeItem :=
  items.filter (·.kind = kind)

theorem ofKind_append (kind : ItemKind) (first second : List AttributeItem) :
    ofKind kind (first ++ second) = ofKind kind first ++ ofKind kind second :=
  List.filter_append ..

def locatedConstraint (i : AttributeItem) : Reading (Constraint × Spot) := do
  return (← constraintOf i, i.spot)

/-- What items add to a field, kind by kind. -/
structure Additions where
  names : List String := []
  displayNames : List String := []
  directives : List Directive := []
  validators : List (ValidatorRef × Path) := []
  constraints : List (Constraint × Spot) := []

namespace Additions

structure Of (items : List AttributeItem) (x : Additions) : Prop where
  names : (ofKind .name items).mapM AttributeItem.requiredText = .ok x.names
  displayNames : (ofKind .displayName items).mapM AttributeItem.requiredText = .ok x.displayNames
  directives : (ofKind .directive items).mapM directiveOf = .ok x.directives
  validators : (ofKind .validator items).mapM validatorOf = .ok x.validators
  constraints : (ofKind .constraint items).mapM locatedConstraint = .ok x.constraints

def append (x y : Additions) : Additions :=
  ⟨x.names ++ y.names, x.displayNames ++ y.displayNames, x.directives ++ y.directives,
    x.validators ++ y.validators, x.constraints ++ y.constraints⟩

theorem of_nil_iff {x : Additions} : x.Of [] ↔ x = {} := by
  constructor
  · obtain ⟨_, _, _, _, _⟩ := x
    rintro ⟨⟨⟩, ⟨⟩, ⟨⟩, ⟨⟩, ⟨⟩⟩
    rfl
  · rintro rfl
    exact ⟨rfl, rfl, rfl, rfl, rfl⟩

theorem of_append_iff {first second : List AttributeItem} {z : Additions} :
    z.Of (first ++ second) ↔ ∃ x y : Additions, x.Of first ∧ y.Of second ∧ z = x.append y := by
  constructor
  · obtain ⟨_, _, _, _, _⟩ := z
    rintro ⟨hNames, hDisplay, hDirectives, hValidators, hConstraints⟩
    simp only [ofKind_append, mapM_append_eq_ok_iff] at hNames hDisplay hDirectives hValidators hConstraints
    obtain ⟨n, n', hn, hn', rfl⟩ := hNames
    obtain ⟨l, l', hl, hl', rfl⟩ := hDisplay
    obtain ⟨d, d', hd, hd', rfl⟩ := hDirectives
    obtain ⟨v, v', hv, hv', rfl⟩ := hValidators
    obtain ⟨c, c', hc, hc', rfl⟩ := hConstraints
    exact ⟨⟨n, l, d, v, c⟩, ⟨n', l', d', v', c'⟩, ⟨hn, hl, hd, hv, hc⟩, ⟨hn', hl', hd', hv', hc'⟩, rfl⟩
  · rintro ⟨x, y, hx, hy, rfl⟩
    constructor <;> rw [ofKind_append, mapM_append_eq_ok_iff]
    · exact ⟨_, _, hx.names, hy.names, rfl⟩
    · exact ⟨_, _, hx.displayNames, hy.displayNames, rfl⟩
    · exact ⟨_, _, hx.directives, hy.directives, rfl⟩
    · exact ⟨_, _, hx.validators, hy.validators, rfl⟩
    · exact ⟨_, _, hx.constraints, hy.constraints, rfl⟩

theorem of_cons_iff {i : AttributeItem} {rest : List AttributeItem} {z : Additions} :
    z.Of (i :: rest) ↔ ∃ x y : Additions, x.Of [i] ∧ y.Of rest ∧ z = x.append y :=
  show z.Of ([i] ++ rest) ↔ _ from of_append_iff

theorem of_singleton_iff {i : AttributeItem} {x : Additions} : x.Of [i] ↔
    match i.kind with
    | .name => ∃ name, i.requiredText = .ok name ∧ x = { names := [name] }
    | .displayName => ∃ name, i.requiredText = .ok name ∧ x = { displayNames := [name] }
    | .directive => ∃ directive, directiveOf i = .ok directive ∧ x = { directives := [directive] }
    | .validator => ∃ validator, validatorOf i = .ok validator ∧ x = { validators := [validator] }
    | .constraint => ∃ c, constraintOf i = .ok c ∧ x = { constraints := [(c, i.spot)] } := by
  have hOfKind (kind : ItemKind) : ofKind kind [i] = if i.kind = kind then [i] else [] := by
    by_cases h : i.kind = kind <;> simp [ofKind, h]
  obtain ⟨names, displayNames, directives, validators, constraints⟩ := x
  have hParts : Of [i] ⟨names, displayNames, directives, validators, constraints⟩ ↔
      (ofKind .name [i]).mapM AttributeItem.requiredText = .ok names ∧
        (ofKind .displayName [i]).mapM AttributeItem.requiredText = .ok displayNames ∧
        (ofKind .directive [i]).mapM directiveOf = .ok directives ∧
        (ofKind .validator [i]).mapM validatorOf = .ok validators ∧
        (ofKind .constraint [i]).mapM locatedConstraint = .ok constraints :=
    ⟨fun ⟨h1, h2, h3, h4, h5⟩ => ⟨h1, h2, h3, h4, h5⟩, fun ⟨h1, h2, h3, h4, h5⟩ => ⟨h1, h2, h3, h4, h5⟩⟩
  rw [hParts]
  cases hKind : i.kind
  all_goals
    simp only [hOfKind, hKind, reduceCtorEq, if_true, if_false, mapM_nil_eq_ok_iff, mapM_singleton_eq_ok_iff,
      locatedConstraint, bind_pure_eq_ok_iff, mk.injEq]
    grind

end Additions

namespace AnnotatedField

def extended (a : AnnotatedField) (x : Additions) : AnnotatedField :=
  { a with
    name := x.names.getLastD a.name
    displayName := (x.displayNames.map some).getLastD a.displayName
    sanitize := (a.sanitize.toList ++ x.directives).head?
    validators := a.validators ++ x.validators.map Prod.fst
    paths := a.paths ++ x.validators.map Prod.snd
    constraints := a.constraints ++ x.constraints.map Prod.fst
    constraintSpots := a.constraintSpots ++ x.constraints.map Prod.snd }

/-- There is at most one directive, and it is on text. -/
structure Admits (a : AnnotatedField) (x : Additions) : Prop where
  once : (a.sanitize.toList ++ x.directives).length ≤ 1
  textual : x.directives ≠ [] → a.fieldType.isTextual = true

theorem applyItem_eq_of_kind (a : AnnotatedField) (i : AttributeItem) :
    a.applyItem i =
      match i.kind with
      | .name => do return { a with name := (← i.requiredText) }
      | .displayName => do return { a with displayName := some (← i.requiredText) }
      | .directive =>
        if a.sanitize.isSome then i.unfit "a field accepts at most one \x60sanitize(...)\x60 directive"
        else if !a.fieldType.isTextual then
          i.unfit s!"\x60sanitize\x60 cannot be applied to a field of type {a.fieldType.name}"
        else do return { a with sanitize := some (← directiveOf i) }
      | .validator => do
        let v ← validatorOf i
        return { a with validators := a.validators ++ [v.1], paths := a.paths ++ [v.2] }
      | .constraint => do
        let c ← constraintOf i
        return { a with constraints := a.constraints ++ [c], constraintSpots := a.constraintSpots ++ [i.spot] } := by
  unfold applyItem AttributeItem.kind
  generalize i.label = label
  split
  case h_5 => simp [*]
  all_goals rfl

theorem applyItem_eq_ok_iff {a b : AnnotatedField} {i : AttributeItem} :
    a.applyItem i = .ok b ↔ ∃ x : Additions, x.Of [i] ∧ a.Admits x ∧ b = a.extended x := by
  have hAdmits {x : Additions} (hx : x.directives = []) : a.Admits x := by
    refine ⟨?_, fun h => absurd hx h⟩
    rw [hx, List.append_nil]
    cases a.sanitize <;> simp
  have hSanitize : (a.sanitize.toList ++ []).head? = a.sanitize := by
    rw [List.append_nil]
    cases a.sanitize <;> rfl
  rw [applyItem_eq_of_kind]
  simp only [Additions.of_singleton_iff]
  cases i.kind with
  | directive =>
    dsimp only
    constructor
    · intro h
      split at h
      · cases h
      · next hNone =>
        split at h
        · cases h
        · next hTextual =>
          obtain ⟨d, hd, rfl⟩ := bind_pure_eq_ok_iff.mp h
          have hFirst : a.sanitize = none := by simpa using hNone
          refine ⟨_, ⟨d, hd, rfl⟩, ⟨by simp [hFirst], fun _ => by simpa using hTextual⟩, ?_⟩
          simp [extended, hFirst]
    · rintro ⟨_, ⟨d, hd, rfl⟩, ⟨hOnce, hTextual⟩, rfl⟩
      have hFirst : a.sanitize = none := by
        cases hSome : a.sanitize with
        | none => rfl
        | some => simp [hSome] at hOnce
      rw [if_neg (by simp [hFirst]), if_neg (by simpa using hTextual)]
      exact bind_pure_eq_ok_iff.mpr ⟨d, hd, by simp [extended, hFirst]⟩
  | name | displayName | validator | constraint =>
    dsimp only
    rw [bind_pure_eq_ok_iff]
    constructor
    · rintro ⟨v, hv, rfl⟩
      exact ⟨_, ⟨v, hv, rfl⟩, hAdmits rfl, by simp only [extended, hSanitize]; simp⟩
    · rintro ⟨_, ⟨v, hv, rfl⟩, -, rfl⟩
      exact ⟨v, hv, by simp only [extended, hSanitize]; simp⟩

theorem toList_sanitize_extended {a : AnnotatedField} {x : Additions} (h : a.Admits x) :
    (a.extended x).sanitize.toList = a.sanitize.toList ++ x.directives := by
  have hOnce := h.once
  rw [extended]
  generalize a.sanitize.toList ++ x.directives = directives at hOnce
  match directives, hOnce with
  | [], _ => rfl
  | [_], _ => rfl

theorem admits_append_iff {a : AnnotatedField} {x y : Additions} :
    a.Admits (x.append y) ↔ a.Admits x ∧ (a.extended x).Admits y := by
  constructor
  · intro h
    have hOnce : (a.sanitize.toList ++ (x.directives ++ y.directives)).length ≤ 1 := h.once
    have hx : a.Admits x := by
      refine ⟨?_, fun hSome => h.textual (List.append_ne_nil_of_left_ne_nil hSome _)⟩
      simp only [List.length_append] at hOnce ⊢
      omega
    refine ⟨hx, ?_, fun hSome => h.textual (List.append_ne_nil_of_right_ne_nil _ hSome)⟩
    rwa [toList_sanitize_extended hx, List.append_assoc]
  · rintro ⟨hx, hy⟩
    refine ⟨?_, fun hSome => ?_⟩
    · have hOnce := hy.once
      rwa [toList_sanitize_extended hx, List.append_assoc] at hOnce
    · by_cases hFirst : x.directives = []
      · exact hy.textual fun hSecond => hSome (List.append_eq_nil_iff.mpr ⟨hFirst, hSecond⟩)
      · exact hx.textual hFirst

theorem extended_append {a : AnnotatedField} {x : Additions} (h : a.Admits x) (y : Additions) :
    a.extended (x.append y) = (a.extended x).extended y := by
  have hLast {α : Type} (first second : List α) (start : α) :
      (first ++ second).getLastD start = second.getLastD (first.getLastD start) := by
    simp [List.getLastD_eq_getLast?, Option.getD_or]
  have hSanitize : (a.sanitize.toList ++ (x.directives ++ y.directives)).head? =
      ((a.extended x).sanitize.toList ++ y.directives).head? := by
    rw [toList_sanitize_extended h, List.append_assoc]
  simp only [extended, Additions.append, List.map_append, hLast, List.append_assoc] at hSanitize ⊢
  rw [hSanitize]

/-- A field is what the items of each kind make of it. -/
theorem foldlM_applyItem_eq_ok_iff {items : List AttributeItem} {a b : AnnotatedField} :
    items.foldlM applyItem a = .ok b ↔ ∃ x : Additions, x.Of items ∧ a.Admits x ∧ b = a.extended x := by
  induction items generalizing a with
  | nil =>
    have hEmpty : a.Admits {} ∧ a.extended {} = a := by
      obtain ⟨_, _, _, _, _, sanitize, _, _, _, _, _⟩ := a
      cases sanitize <;> exact ⟨⟨by simp, nofun⟩, by simp [extended]⟩
    constructor
    · rintro ⟨⟩
      exact ⟨{}, Additions.of_nil_iff.mpr rfl, hEmpty.1, hEmpty.2.symm⟩
    · rintro ⟨x, hx, -, rfl⟩
      obtain rfl := Additions.of_nil_iff.mp hx
      rw [hEmpty.2]
      rfl
  | cons i rest ih =>
    have hCons (z : Additions) : z.Of (i :: rest) ↔ _ := Additions.of_cons_iff
    rw [List.foldlM_cons, bind_eq_ok_iff]
    simp only [applyItem_eq_ok_iff, ih, hCons]
    constructor
    · rintro ⟨_, ⟨x, hx, hAdmits, rfl⟩, y, hy, hMore, rfl⟩
      exact ⟨x.append y, ⟨x, y, hx, hy, rfl⟩, admits_append_iff.mpr ⟨hAdmits, hMore⟩,
        (extended_append hAdmits y).symm⟩
    · rintro ⟨_, ⟨x, y, hx, hy, rfl⟩, hBoth, rfl⟩
      obtain ⟨hAdmits, hMore⟩ := admits_append_iff.mp hBoth
      exact ⟨_, ⟨x, hx, hAdmits, rfl⟩, y, hy, hMore, extended_append hAdmits y⟩

end AnnotatedField

/-- A field is read if its items are, and then it is what they make of it. -/
theorem readField_eq_iff {f : Field} {a : AnnotatedField} :
    readField f = (a, []) ↔ ∃ items, writtenItems f.attributes = .ok items ∧ ∃ x : Additions, x.Of items ∧
      (AnnotatedField.ofField f).Admits x ∧
      a = { (AnnotatedField.ofField f).extended x with
        annotated := f.attributes.any (·.isNamed attributeName) } := by
  rw [readField, applyItems_eq_iff]
  simp only [AnnotatedField.foldlM_applyItem_eq_ok_iff]
  refine exists_congr fun items => and_congr_right' (exists_congr fun x => and_congr_right' (and_congr_left' ?_))
  exact ⟨fun h => ⟨h.once, h.textual⟩, fun h => ⟨h.once, h.textual⟩⟩

end FieldRules.Derive
