import FieldRules.Derive.Instance
import FieldRules.Derive.Shape
import FieldRules.Proofs.Declaration.Accepted
import FieldRules.Proofs.Source.Reading

/-!
# Models of structures

What it means that a structure was accepted: its model has some of the fields of the structure, in order and
under their places, and the declaration of the model is accepted.
-/
set_option autoImplicit false

namespace FieldRules.Derive

open Source

/-- An item that is refused changes nothing, so what each item keeps is kept by all of them. -/
theorem applyItems_keeps {σ : Type} {apply : σ → AttributeItem → Reading σ} (P : σ → Prop)
    (hApply : ∀ s i t, P s → apply s i = .ok t → P t) {start : σ} (hStart : P start)
    (attributes : List Attribute) : P (applyItems apply start attributes).1 := by
  have hItems (items : List AttributeItem) (s : σ × List Diagnostic) (hs : P s.1) :
      P (items.foldl (applyItems.applyOne apply) s).1 := by
    induction items generalizing s with
    | nil => exact hs
    | cons i rest ih =>
      apply ih
      rw [applyItems.applyOne]
      split
      · next t ht => exact hApply s.1 i t hs ht
      · exact hs
  have hAttributes (list : List Attribute) (s : σ × List Diagnostic) (hs : P s.1) :
      P (list.foldl (applyItems.applyAttribute apply) s).1 := by
    induction list generalizing s with
    | nil => exact hs
    | cons a rest ih =>
      apply ih
      rw [applyItems.applyAttribute]
      split
      · next items _ => exact hItems items s hs
      · exact hs
  exact hAttributes _ (start, []) hStart

/-- A field as it was read has the place and the type of the field of the structure, whatever its items say. -/
structure AnnotatedField.IsOf (a : AnnotatedField) (f : Field) : Prop where
  ident_eq : a.ident = f.ident
  type_eq : (a.fieldType, a.nullable) = Derive.fieldType f.type
  annotated_eq : a.annotated = f.attributes.any (·.isNamed attributeName)

theorem AnnotatedField.IsOf.applyItem {a b : AnnotatedField} {f : Field} {i : AttributeItem} (h : a.IsOf f)
    (hApply : a.applyItem i = .ok b) : b.IsOf f := by
  unfold AnnotatedField.applyItem at hApply
  split at hApply
  case h_1 | h_2 | h_4 | h_5 =>
    obtain ⟨_, -, rfl⟩ := bind_pure_eq_ok_iff.mp hApply
    exact ⟨h.ident_eq, h.type_eq, h.annotated_eq⟩
  case h_3 =>
    split at hApply
    · cases hApply
    · split at hApply
      · cases hApply
      · obtain ⟨_, -, rfl⟩ := bind_pure_eq_ok_iff.mp hApply
        exact ⟨h.ident_eq, h.type_eq, h.annotated_eq⟩

theorem readField_isOf (f : Field) : (readField f).1.IsOf f :=
  applyItems_keeps (AnnotatedField.IsOf · f) (fun _ _ _ hs ht => hs.applyItem ht) ⟨rfl, rfl, rfl⟩ f.attributes

/-- Constraints and their places, and validators and their functions, are as many. -/
structure AnnotatedField.IsParallel (a : AnnotatedField) : Prop where
  spots : a.constraintSpots.length = a.constraints.length
  paths : a.paths.length = a.validators.length

theorem AnnotatedField.IsParallel.applyItem {a b : AnnotatedField} {i : AttributeItem} (h : a.IsParallel)
    (hApply : a.applyItem i = .ok b) : b.IsParallel := by
  unfold AnnotatedField.applyItem at hApply
  split at hApply
  case h_1 | h_2 =>
    obtain ⟨_, -, rfl⟩ := bind_pure_eq_ok_iff.mp hApply
    exact ⟨h.spots, h.paths⟩
  case h_3 =>
    split at hApply
    · cases hApply
    · split at hApply
      · cases hApply
      · obtain ⟨_, -, rfl⟩ := bind_pure_eq_ok_iff.mp hApply
        exact ⟨h.spots, h.paths⟩
  case h_4 =>
    obtain ⟨_, -, rfl⟩ := bind_pure_eq_ok_iff.mp hApply
    exact ⟨h.spots, by simp [h.paths]⟩
  case h_5 =>
    obtain ⟨_, -, rfl⟩ := bind_pure_eq_ok_iff.mp hApply
    exact ⟨by simp [h.spots], h.paths⟩

/-- Whatever is refused, no list runs ahead of the other. -/
theorem readField_isParallel (f : Field) : (readField f).1.IsParallel :=
  applyItems_keeps AnnotatedField.IsParallel (fun _ _ _ hs ht => hs.applyItem ht) ⟨rfl, rfl⟩ f.attributes

namespace AnnotatedModel

structure Reads (i : Item) (fields : List Field) : Prop where
  options : (applyItems ModelOptions.applyItem { name := i.ident.text } i.attributes).2 = []
  fields : ∀ f ∈ fields, (readField f).2 = []

def unchecked (i : Item) (fields : List Field) : AnnotatedModel :=
  let options := (applyItems ModelOptions.applyItem { name := i.ident.text } i.attributes).1
  ⟨i.ident, i.generics, options.name, participants (fields.map fun f => (readField f).1), options.hook⟩

theorem refused_eq_nil_iff (i : Item) (fields : List Field) :
    (applyItems ModelOptions.applyItem { name := i.ident.text } i.attributes).2 ++
      (fields.map readField).flatMap Prod.snd = [] ↔ Reads i fields := by
  simp only [List.append_eq_nil_iff, List.flatMap_eq_nil_iff, List.forall_mem_map]
  exact ⟨fun h => ⟨h.1, h.2⟩, fun h => ⟨h.options, h.fields⟩⟩

theorem ofFields_of_reads {i : Item} {fields : List Field} (h : Reads i fields) :
    ofFields i fields =
      if (unchecked i fields).diagnostics = [] then .ok (unchecked i fields)
      else .error (unchecked i fields).diagnostics := by
  have hUnchecked : (⟨i.ident, i.generics,
      (applyItems ModelOptions.applyItem { name := i.ident.text } i.attributes).1.name,
      participants ((fields.map readField).map Prod.fst),
      (applyItems ModelOptions.applyItem { name := i.ident.text } i.attributes).1.hook⟩ : AnnotatedModel) =
        unchecked i fields := by
    rw [List.map_map]
    rfl
  simp only [ofFields, (refused_eq_nil_iff i fields).mpr h, hUnchecked]
  split
  · next hNone => rw [if_pos hNone]
  · next hSome => rw [if_neg hSome]

theorem ofFields_eq_ok_iff (i : Item) (fields : List Field) (m : AnnotatedModel) :
    ofFields i fields = .ok m ↔ Reads i fields ∧ m = unchecked i fields ∧ m.diagnostics = [] := by
  constructor
  · intro h
    have hReads : Reads i fields := by
      rw [← refused_eq_nil_iff]
      simp only [ofFields] at h
      split at h
      · assumption
      · cases h
    rw [ofFields_of_reads hReads] at h
    split at h
    · next hNone =>
      cases h
      exact ⟨hReads, rfl, hNone⟩
    · cases h
  · rintro ⟨hReads, rfl, hNone⟩
    rw [ofFields_of_reads hReads, if_pos hNone]

theorem ofItem_eq_ok {i : Item} {m : AnnotatedModel} (h : ofItem i = .ok m) :
    ∃ fields, i.body = .named fields ∧ ofFields i fields = .ok m := by
  rw [ofItem] at h
  split at h
  · next fields hBody => exact ⟨fields, hBody, h⟩
  · cases h
  · cases h

/-- Fields are left out of a model, but they are neither moved nor renamed in place. -/
theorem idents_sublist {i : Item} {fields : List Field} {m : AnnotatedModel} (hBody : i.body = .named fields)
    (h : ofItem i = .ok m) :
    (m.fields.map AnnotatedField.ident).Sublist (fields.map Field.ident) := by
  obtain ⟨named, hNamed, hModel⟩ := ofItem_eq_ok h
  obtain rfl : named = fields := by
    rw [hBody] at hNamed
    cases hNamed
    rfl
  have hIdents : (named.map fun f => (readField f).1).map AnnotatedField.ident = named.map Field.ident := by
    simp [Function.comp_def, (readField_isOf _).ident_eq]
  obtain ⟨-, rfl, -⟩ := (ofFields_eq_ok_iff i named m).mp hModel
  rw [← hIdents]
  exact List.filter_sublist.map AnnotatedField.ident

theorem isParallel {i : Item} {m : AnnotatedModel} (h : ofItem i = .ok m) {a : AnnotatedField} (ha : a ∈ m.fields) :
    a.IsParallel := by
  obtain ⟨_, _, hModel⟩ := ofItem_eq_ok h
  obtain ⟨-, rfl, -⟩ := (ofFields_eq_ok_iff _ _ m).mp hModel
  obtain ⟨f, -, rfl⟩ := List.mem_map.mp (List.mem_filter.mp ha).1
  exact readField_isParallel f

theorem declaration_isAccepted {i : Item} {m : AnnotatedModel} (h : ofItem i = .ok m) :
    m.declaration.isAccepted = true := by
  obtain ⟨_, _, hModel⟩ := ofItem_eq_ok h
  exact (ModelDeclaration.errors_eq_nil_iff _).mp (List.map_eq_nil_iff.mp ((ofFields_eq_ok_iff _ _ m).mp hModel).2.2)

end AnnotatedModel
end FieldRules.Derive
