import FieldRules.Proofs.Derive.Participants
import FieldRules.Proofs.Derive.Places

/-!
# Items spread over attributes

The declaration of a structure depends on the items of its fields kind by kind. How they are spread over attributes,
and where an item stands among those of other kinds, makes no difference.
-/
set_option autoImplicit false

namespace FieldRules

namespace Derive

open Source

/-- Items that can be read are the same, kind by kind and in order, apart from their places. -/
inductive SameItems : Reading (List AttributeItem) → Reading (List AttributeItem) → Prop where
  | read {items items' : List AttributeItem}
    (h : ∀ kind, List.Forall₂ AttributeItem.Alike (ofKind kind items) (ofKind kind items')) :
    SameItems (.ok items) (.ok items')
  | refused (d d' : Diagnostic) : SameItems (.error d) (.error d')

/-- A field whose items were spread over its attributes in another way. It may stand elsewhere. -/
structure Respread (f f' : Field) : Prop where
  ident : f.ident.placeless = f'.ident.placeless
  type_eq : f.type = f'.type
  annotated : f.attributes.any (·.isNamed attributeName) = f'.attributes.any (·.isNamed attributeName)
  items : SameItems (writtenItems f.attributes) (writtenItems f'.attributes)

theorem SameItems.refl (r : Reading (List AttributeItem)) : SameItems r r := by
  cases r with
  | ok items => exact .read fun kind => List.forall₂_same.mpr fun _ _ => rfl
  | error d => exact .refused d d

theorem Respread.refl (f : Field) : Respread f f :=
  ⟨rfl, rfl, rfl, .refl _⟩

theorem AttributeItem.Alike.symm {i j : AttributeItem} (h : i.Alike j) : j.Alike i :=
  Eq.symm h

theorem SameItems.symm {r r' : Reading (List AttributeItem)} (h : SameItems r r') : SameItems r' r := by
  cases h with
  | read h => exact .read fun kind => (h kind).flip.imp fun _ _ => AttributeItem.Alike.symm
  | refused d d' => exact .refused d' d

theorem Respread.symm {f f' : Field} (h : Respread f f') : Respread f' f :=
  ⟨h.ident.symm, h.type_eq.symm, h.annotated.symm, h.items.symm⟩

/-- An item may be moved past one of another kind. -/
theorem SameItems.move (before after : List AttributeItem) {i j : AttributeItem} (h : i.kind ≠ j.kind) :
    SameItems (.ok (before ++ i :: j :: after)) (.ok (before ++ j :: i :: after)) := by
  refine .read fun kind => ?_
  have hPair : ofKind kind [i, j] = ofKind kind [j, i] := by
    by_cases hi : i.kind = kind
    · have hj : j.kind ≠ kind := fun hj => h (hi.trans hj.symm)
      simp [ofKind, hi, hj]
    · by_cases hj : j.kind = kind <;> simp [ofKind, hi, hj]
  have hSplit (x y : AttributeItem) : ofKind kind (before ++ x :: y :: after) =
      ofKind kind before ++ (ofKind kind [x, y] ++ ofKind kind after) := by
    rw [← ofKind_append, ← ofKind_append]
    rfl
  rw [hSplit, hSplit, hPair]
  exact List.forall₂_same.mpr fun _ _ => rfl

namespace Additions

structure SameDeclared (x y : Additions) : Prop where
  names : x.names = y.names
  displayNames : x.displayNames = y.displayNames
  directives : x.directives = y.directives
  validators : x.validators.map Prod.fst = y.validators.map Prod.fst
  constraints : x.constraints.map Prod.fst = y.constraints.map Prod.fst

theorem exists_of_alike {items items' : List AttributeItem}
    (h : ∀ kind, List.Forall₂ AttributeItem.Alike (ofKind kind items) (ofKind kind items')) {x : Additions}
    (hx : x.Of items) : ∃ y : Additions, y.Of items' ∧ y.SameDeclared x := by
  have hSame {β : Type} {read : AttributeItem → Reading β} (kind : ItemKind) {values : List β}
      (hPlaces : ∀ i v, read i.placeless = .ok v ↔ read i = .ok v)
      (hValues : (ofKind kind items).mapM read = .ok values) :
      (ofKind kind items').mapM read = .ok values := by
    refine (mapM_congr_iff ((h kind).imp fun i j hAlike v => ?_) values).mp hValues
    rw [← hPlaces i, ← hPlaces j, hAlike]
  have hConstraint (i j : AttributeItem) (c : Constraint × Spot) (hAlike : i.Alike j)
      (hc : locatedConstraint i = .ok c) : ∃ c', locatedConstraint j = .ok c' ∧ c'.1 = c.1 := by
    obtain ⟨declared, hDeclared, rfl⟩ := bind_pure_eq_ok_iff.mp hc
    rw [← constraintOf_placeless, hAlike, constraintOf_placeless] at hDeclared
    exact ⟨(declared, j.spot), bind_pure_eq_ok_iff.mpr ⟨declared, hDeclared, rfl⟩, rfl⟩
  have hValidator (i j : AttributeItem) (v : ValidatorRef × Path) (hAlike : i.Alike j) (hv : validatorOf i = .ok v) :
      ∃ v', validatorOf j = .ok v' ∧ v'.1 = v.1 := by
    have hRead := (exists_validatorOf_placeless i v.1).mpr ⟨v.2, hv⟩
    rw [hAlike] at hRead
    obtain ⟨path', hOther⟩ := (exists_validatorOf_placeless j v.1).mp hRead
    exact ⟨(v.1, path'), hOther, rfl⟩
  obtain ⟨constraints, hConstraints, hDeclared⟩ :=
    exists_mapM_of_forall₂ Prod.fst hConstraint (h .constraint) hx.constraints
  obtain ⟨validators, hValidators, hReferred⟩ :=
    exists_mapM_of_forall₂ Prod.fst hValidator (h .validator) hx.validators
  exact ⟨⟨x.names, x.displayNames, x.directives, validators, constraints⟩,
    ⟨hSame .name (fun i => i.requiredText_placeless) hx.names,
      hSame .displayName (fun i => i.requiredText_placeless) hx.displayNames,
      hSame .directive directiveOf_placeless hx.directives, hValidators, hConstraints⟩,
    ⟨rfl, rfl, rfl, hReferred, hDeclared⟩⟩

end Additions

/-- A field that can be read can be read with its items spread in another way, and is declared as before. -/
theorem Respread.exists_readField {f f' : Field} (h : Respread f f') {a : AnnotatedField}
    (ha : readField f = (a, [])) :
    ∃ b, readField f' = (b, []) ∧ b.declaration = a.declaration ∧ b.annotated = a.annotated := by
  obtain ⟨attributes, ident, type⟩ := f
  obtain ⟨attributes', ident', type'⟩ := f'
  obtain ⟨hIdent, rfl, hAnnotated, hSame⟩ := h
  have hText : ident'.text = ident.text := (congrArg Ident.text hIdent).symm
  obtain ⟨items, hItems, x, hx, hAdmits, rfl⟩ := readField_eq_iff.mp ha
  change SameItems (writtenItems attributes) (writtenItems attributes') at hSame
  rw [show writtenItems attributes = .ok items from hItems] at hSame
  generalize hWritten : writtenItems attributes' = written at hSame
  cases hSame with
  | @read _ items' hAlike =>
    obtain ⟨y, hy, hDeclared⟩ := Additions.exists_of_alike hAlike hx
    refine ⟨_, readField_eq_iff.mpr ⟨items', hWritten, y, hy, ?_, rfl⟩, ?_, hAnnotated.symm⟩
    · refine ⟨?_, ?_⟩ <;> rw [hDeclared.directives]
      · exact hAdmits.once
      · exact hAdmits.textual
    · simp only [AnnotatedField.declaration, AnnotatedField.extended, AnnotatedField.ofField, List.nil_append,
        hDeclared.names, hDeclared.displayNames, hDeclared.directives, hDeclared.validators, hDeclared.constraints,
        hText]

namespace AnnotatedModel

theorem siblings_eq_flatMap (fields : List AnnotatedField) :
    siblings fields = (fields.map AnnotatedField.declaration).flatMap fun d =>
      d.constraints.filterMap fun c => c.rule.sibling? := by
  simp [siblings, List.flatMap_map, AnnotatedField.declaration]

/-- Which fields take part is seen from their declarations and from whether they have attributes of rules. -/
theorem map_declaration_participants {as bs : List AnnotatedField}
    (h : List.Forall₂ (fun a b => b.declaration = a.declaration ∧ b.annotated = a.annotated) as bs) :
    (participants bs).map AnnotatedField.declaration = (participants as).map AnnotatedField.declaration := by
  have hDeclarations : bs.map AnnotatedField.declaration = as.map AnnotatedField.declaration := by
    refine List.forall₂_eq_eq_eq ▸ ?_
    rw [List.forall₂_map_left_iff, List.forall₂_map_right_iff]
    exact h.flip.imp fun _ _ hSame => hSame.1
  have hSiblings : siblings bs = siblings as := by rw [siblings_eq_flatMap, siblings_eq_flatMap, hDeclarations]
  rw [participants, participants, hSiblings]
  generalize siblings as = names
  clear hDeclarations hSiblings
  induction h with
  | nil => rfl
  | @cons a b _ _ hSame _ ih =>
    have hName : b.name = a.name := congrArg FieldDeclaration.name hSame.1
    rw [List.filter_cons, List.filter_cons, hSame.2, hName]
    split
    · rw [List.map_cons, List.map_cons, ih, hSame.1]
    · exact ih

theorem exists_ofItem_of_respread {i : Item} {fields fields' : List Field} (h : List.Forall₂ Respread fields fields')
    {m : AnnotatedModel} (hModel : ofItem { i with body := .named fields } = .ok m) :
    ∃ m', ofItem { i with body := .named fields' } = .ok m' ∧ m'.declaration = m.declaration := by
  obtain ⟨hReads, rfl, hNone⟩ := (ofFields_eq_ok_iff _ fields m).mp hModel
  have hFields : List.Forall₂ (fun f f' => (readField f').2 = [] ∧
      (readField f').1.declaration = (readField f).1.declaration ∧
      (readField f').1.annotated = (readField f).1.annotated)
      fields fields' := by
    refine ((List.forall₂_and_left ..).mpr ⟨hReads.fields, h⟩).imp fun f f' ⟨hRead, hRespread⟩ => ?_
    obtain ⟨b, hb, hSame⟩ := hRespread.exists_readField (Prod.ext rfl hRead)
    rw [hb]
    exact ⟨rfl, hSame⟩
  have hDeclaration : (unchecked { i with body := .named fields' } fields').declaration =
      (unchecked { i with body := .named fields } fields).declaration := by
    have hSame : (participants (fields'.map fun f => (readField f).1)).map AnnotatedField.declaration =
        (participants (fields.map fun f => (readField f).1)).map AnnotatedField.declaration := by
      refine map_declaration_participants ?_
      rw [List.forall₂_map_left_iff, List.forall₂_map_right_iff]
      exact hFields.imp fun _ _ hField => hField.2
    rw [declaration, declaration, unchecked, unchecked, hSame]
  have hReads' : Reads { i with body := .named fields' } fields' :=
    ⟨hReads.options, ((List.forall₂_and_left ..).mp hFields.flip).1⟩
  refine ⟨unchecked _ fields', (ofFields_eq_ok_iff _ fields' _).mpr ⟨hReads', rfl, ?_⟩, hDeclaration⟩
  rw [diagnostics, List.map_eq_nil_iff] at hNone ⊢
  rw [hDeclaration]
  exact hNone

/-- How the items of fields are spread over attributes changes neither whether a structure is accepted nor what it
declares; nor does the order among items of different kinds. -/
theorem declaration_of_respread {i : Item} {fields fields' : List Field} (h : List.Forall₂ Respread fields fields') :
    (ofItem { i with body := .named fields' }).toOption.map declaration =
      (ofItem { i with body := .named fields }).toOption.map declaration := by
  have hForth (m : AnnotatedModel) := exists_ofItem_of_respread (i := i) h (m := m)
  have hBack (m : AnnotatedModel) :=
    exists_ofItem_of_respread (i := i) (h.flip.imp fun _ _ => Respread.symm) (m := m)
  cases hModel : ofItem { i with body := .named fields } with
  | ok m =>
    obtain ⟨m', hModel', hSame⟩ := hForth m hModel
    rw [hModel']
    exact congrArg some hSame
  | error diagnostics =>
    cases hModel' : ofItem { i with body := .named fields' } with
    | error diagnostics' => rfl
    | ok m' =>
      obtain ⟨m, hOther, -⟩ := hBack m' hModel'
      cases hModel.symm.trans hOther

end AnnotatedModel

end Derive

namespace Signup

open Source Derive

/-- The first field on another line, with all its items in one attribute and the sanitizer behind the constraint. -/
def gathered : Field :=
  { nick with
    ident := ⟨⟨2, 0⟩, false, "nick"⟩
    attributes :=
      [rules (separate [word "required", word "sanitize" ++ parens (word "trim"), given "custom" (word "known")])] }

theorem respread_gathered : Respread nick gathered where
  ident := rfl
  type_eq := rfl
  annotated := by decide +kernel
  items := SameItems.move [] _ (by decide +kernel)

end Signup

theorem Derive.AnnotatedModel.declaration_of_gathered :
    List.Forall₂ Respread Signup.fields [Signup.gathered, Signup.age, Signup.picture] ∧
      (ofItem { Signup.item [] with body := .named [Signup.gathered, Signup.age, Signup.picture] }).toOption.map
        declaration = some (Signup.declaration none) := by
  have hFields : List.Forall₂ Respread Signup.fields [Signup.gathered, Signup.age, Signup.picture] :=
    .cons Signup.respread_gathered (.cons (.refl _) (.cons (.refl _) .nil))
  obtain ⟨m, hModel, hIs⟩ : ∃ m, ofItem (Signup.item []) = .ok m ∧ Signup.IsModel m none :=
    Signup.exists_model (by decide +kernel)
  refine ⟨hFields, (declaration_of_respread (i := Signup.item []) hFields).trans ?_⟩
  change (ofItem (Signup.item [])).toOption.map declaration = _
  rw [hModel, ← hIs.declaration_eq]
  rfl

end FieldRules
