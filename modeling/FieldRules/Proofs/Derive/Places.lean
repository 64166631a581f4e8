import FieldRules.Proofs.Derive.Constraint
import FieldRules.Proofs.Derive.Items
import FieldRules.Proofs.Derive.Validator
import FieldRules.Proofs.Source.Places

/-!
# Places of items

What an item declares does not depend on where it stands.
-/
set_option autoImplicit false

namespace FieldRules.Derive

open Source

/-- The term without its places. The trees that it is written with are left out. -/
def Term.placeless (t : Term) : Term :=
  ⟨t.expr.placeless, []⟩

def Argument.placeless : Argument → Argument
  | .flag name => .flag name.placeless
  | .named name value => .named name.placeless value.placeless
  | .positional value => .positional value.placeless

def ItemContent.placeless : ItemContent → ItemContent
  | .nothing => .nothing
  | .value t => .value t.placeless
  | .arguments given => .arguments (given.map Argument.placeless)

def AttributeItem.placeless (i : AttributeItem) : AttributeItem :=
  ⟨i.name.placeless, i.content.placeless⟩

/-- Two items are the same apart from their places. -/
def AttributeItem.Alike (i j : AttributeItem) : Prop :=
  i.placeless = j.placeless

theorem readAlike_placeless (e : Expr) : ReadAlike e.placeless e where
  number := e.number_placeless
  size := e.size_placeless
  text := e.text_placeless
  texts := e.texts_placeless
  value := e.value_placeless

theorem listEntry_placeless (e : Expr) (texts : List String) :
    listEntry e.placeless = .ok texts ↔ listEntry e = .ok texts := by
  have hValue := e.value_placeless
  have hTexts := e.texts_placeless
  cases e with
  | array => exact hTexts texts
  | _ =>
    simp only [Expr.placeless] at hValue
    simp only [Expr.placeless, listEntry, bind_eq_ok_iff, hValue]
    refine exists_congr fun v => and_congr_right' ?_
    split <;> simp [Expr.unfit]

namespace Arguments

def placeless (a : Arguments) : Arguments where
  named := a.named.map fun x => (x.1.placeless, x.2.placeless)
  positional := a.positional.map Expr.placeless
  flags := a.flags.map Ident.placeless

theorem ofList_placeless (arguments : List Argument) :
    ofList (arguments.map Argument.placeless) = (ofList arguments).placeless := by
  have hPart {α : Type} (part : Argument → Option α) (f : α → α)
      (h : ∀ a : Argument, part a.placeless = (part a).map f) :
      (arguments.map Argument.placeless).filterMap part = (arguments.filterMap part).map f := by
    rw [List.filterMap_map, List.map_filterMap]
    exact List.filterMap_congr fun a _ => h a
  simp only [ofList, placeless, mk.injEq]
  refine ⟨hPart _ _ ?_, hPart _ _ ?_, hPart _ _ ?_⟩ <;> rintro (_ | _ | _) <;> rfl

theorem names_placeless (a : Arguments) : a.placeless.names = a.names := by
  rw [names, placeless, List.map_map]
  rfl

theorem value?_placeless (a : Arguments) (name : String) :
    a.placeless.value? name = (a.value? name).map Expr.placeless := by
  rw [value?, placeless, List.find?_map, value?, Option.map_map, Option.map_map]
  rfl

theorem rel_value?_placeless (a : Arguments) (name : String) {R : Expr → Expr → Prop}
    (h : ∀ e : Expr, R e.placeless e) : Option.Rel R (a.placeless.value? name) (a.value? name) := by
  rw [value?_placeless]
  cases a.value? name with
  | none => exact .none
  | some e => exact .some (h e)

theorem same_placeless (a : Arguments) : a.placeless.Same a where
  value name := a.rel_value?_placeless name readAlike_placeless
  positional := by
    rw [placeless, List.forall₂_map_left_iff, List.forall₂_same]
    exact fun e _ => listEntry_placeless e

end Arguments

namespace AttributeItem

variable (i : AttributeItem)

theorem arguments_placeless : i.placeless.arguments = i.arguments.map Argument.placeless := by
  obtain ⟨name, content⟩ := i
  cases content <;> rfl

theorem value?_placeless : i.placeless.value? = i.value?.map Term.placeless := by
  obtain ⟨name, content⟩ := i
  cases content <;> rfl

theorem requiredText_eq_ok_iff {s : String} :
    i.requiredText = .ok s ↔ ∃ t, i.value? = some t ∧ t.expr.text = .ok s := by
  rw [requiredText, requiredValue, bind_eq_ok_iff]
  cases i.value? with
  | none => exact ⟨nofun, nofun⟩
  | some t => simp

theorem requiredText_placeless (s : String) : i.placeless.requiredText = .ok s ↔ i.requiredText = .ok s := by
  simp only [requiredText_eq_ok_iff, value?_placeless, Option.map_eq_some_iff, exists_exists_and_eq_and,
    Term.placeless, Expr.text_placeless]

end AttributeItem

section Readers

variable (i : AttributeItem)

theorem constraintOf_placeless (c : Constraint) : constraintOf i.placeless = .ok c ↔ constraintOf i = .ok c := by
  have hArguments : Arguments.ofList i.placeless.arguments = (Arguments.ofList i.arguments).placeless := by
    rw [i.arguments_placeless, Arguments.ofList_placeless]
  have hValue : i.placeless.value? = none ↔ i.value? = none := by rw [i.value?_placeless, Option.map_eq_none_iff]
  have hFlags : (Arguments.ofList i.arguments).placeless.flags = [] ↔ (Arguments.ofList i.arguments).flags = [] :=
    List.map_eq_nil_iff
  constructor
  · refine constraintOf_of_same rfl hValue.mp ?_ ?_ fun _ => ?_ <;> rw [hArguments]
    · rw [Arguments.names_placeless]
    · exact hFlags.mp
    · exact Arguments.same_placeless _
  · refine constraintOf_of_same rfl hValue.mpr ?_ ?_ fun _ => ?_ <;> rw [hArguments]
    · rw [Arguments.names_placeless]
    · exact hFlags.mpr
    · exact (Arguments.same_placeless _).symm

theorem addOption_placeless (d d' : Directive) (a : Argument) :
    addOption i.placeless d a.placeless = .ok d' ↔ addOption i d a = .ok d' := by
  cases a with
  | flag name =>
    have hText : name.placeless.text = name.text := rfl
    simp only [Argument.placeless, addOption, hText]
    split <;> simp
  | named | positional => exact ⟨nofun, nofun⟩

theorem directiveOf_placeless (d : Directive) : directiveOf i.placeless = .ok d ↔ directiveOf i = .ok d := by
  obtain ⟨name, content⟩ := i
  cases content with
  | nothing | value => exact ⟨nofun, nofun⟩
  | arguments options =>
    change (options.map Argument.placeless).foldlM (addOption _) _ = _ ↔ options.foldlM (addOption _) _ = _
    generalize Directive.none = start
    induction options generalizing start with
    | nil => rfl
    | cons a rest ih =>
      rw [List.map_cons, List.foldlM_cons, List.foldlM_cons, bind_eq_ok_iff, bind_eq_ok_iff]
      exact exists_congr fun next => and_congr (addOption_placeless ⟨name, .arguments rest⟩ start next a) (ih next)

theorem exists_refers_iff {a : Arguments} {w : ValidatorRef} :
    (∃ path, a.Refers w path) ↔ ∃ spelling, (∃ e, a.value? "function" = some e ∧ e.Refers spelling) ∧
      (∃ name, a.Gives "name" Expr.text name ∧ w.name = name.getD spelling) ∧
      w.isAsync = a.flags.any (·.text == "async") := by
  constructor
  · rintro ⟨path, hFunction, hName, hAsync⟩
    obtain ⟨e, he, hPath⟩ := Arguments.gives_some_iff.mp hFunction
    exact ⟨path.spelling, ⟨e, he, path, hPath, rfl⟩, hName, hAsync⟩
  · rintro ⟨_, ⟨e, he, path, hPath, rfl⟩, hName, hAsync⟩
    exact ⟨path, Arguments.gives_some_iff.mpr ⟨e, he, hPath⟩, hName, hAsync⟩

theorem exists_refers_placeless (a : Arguments) (w : ValidatorRef) :
    (∃ path, a.placeless.Refers w path) ↔ ∃ path, a.Refers w path := by
  have hFlags : a.placeless.flags.any (·.text == "async") = a.flags.any (·.text == "async") := List.any_map
  simp only [exists_refers_iff, Arguments.value?_placeless, Option.map_eq_some_iff, exists_exists_and_eq_and,
    Expr.refers_placeless, hFlags, a.same_placeless.gives fun _ _ hAlike => hAlike.text]

theorem exists_validatorOf_value_iff (name : Ident) (t : Term) (w : ValidatorRef) :
    (∃ path, validatorOf ⟨name, .value t⟩ = .ok (w, path)) ↔
      ∃ spelling, t.expr.Refers spelling ∧ w = { name := spelling } := by
  simp only [validatorOf, bind_pure_eq_ok_iff, Prod.mk.injEq]
  constructor
  · rintro ⟨_, path, hPath, rfl, rfl⟩
    exact ⟨_, ⟨path, hPath, rfl⟩, rfl⟩
  · rintro ⟨_, ⟨path, hPath, rfl⟩, rfl⟩
    exact ⟨path, path, hPath, rfl, rfl⟩

theorem exists_validatorOf_arguments_iff (name : Ident) (arguments : List Argument) (w : ValidatorRef) :
    (∃ path, validatorOf ⟨name, .arguments arguments⟩ = .ok (w, path)) ↔
      (∃ path, (Arguments.ofList arguments).Refers w path) ∧
        ((Arguments.ofList arguments).names.Nodup ∧
          ∀ given ∈ (Arguments.ofList arguments).names, given ∈ Arguments.validatorNames) ∧
        (Arguments.ofList arguments).flags.eraseP (·.text == "async") = [] ∧
        (Arguments.ofList arguments).positional = [] := by
  simp only [validatorOf_arguments_iff (i := ⟨name, .arguments arguments⟩) rfl, exists_and_right]
  refine and_congr_right' ?_
  rw [← Arguments.named_without_eq_nil_iff (by decide)]
  exact ⟨fun ⟨hNamed, hFlags, hPositional⟩ => ⟨hNamed, hFlags, hPositional⟩,
    fun ⟨hNamed, hFlags, hPositional⟩ => ⟨hNamed, hFlags, hPositional⟩⟩

theorem exists_validatorOf_placeless (w : ValidatorRef) :
    (∃ path, validatorOf i.placeless = .ok (w, path)) ↔ ∃ path, validatorOf i = .ok (w, path) := by
  obtain ⟨name, content⟩ := i
  cases content with
  | nothing => exact ⟨nofun, nofun⟩
  | value t =>
    simp only [AttributeItem.placeless, ItemContent.placeless, exists_validatorOf_value_iff, Term.placeless,
      Expr.refers_placeless]
  | arguments arguments =>
    have hFlags (a : Arguments) : a.placeless.flags.eraseP (·.text == "async") = [] ↔
        a.flags.eraseP (·.text == "async") = [] := by
      rw [Arguments.placeless, List.eraseP_map, List.map_eq_nil_iff]
      rfl
    have hPositional (a : Arguments) : a.placeless.positional = [] ↔ a.positional = [] := List.map_eq_nil_iff
    simp only [AttributeItem.placeless, ItemContent.placeless, exists_validatorOf_arguments_iff,
      Arguments.ofList_placeless, exists_refers_placeless, Arguments.names_placeless, hFlags, hPositional]

end Readers

end FieldRules.Derive
