import FieldRules.Proofs.Declaration.Defects
import FieldRules.Proofs.Derive.Instance

/-!
# Fields that take part

A model leaves out the fields that no rule is about. Nothing is lost by it: these fields have no rules of their own,
and a rule that reads a field of the structure still finds it.
-/
set_option autoImplicit false

namespace FieldRules.Derive

open Source AnnotatedModel

/-- A field of a structure takes part if it has an attribute of rules, or if a rule of the structure reads it under
the name it was given. -/
def TakesPart (fields : List Field) (f : Field) : Prop :=
  (∃ a ∈ f.attributes, a.isNamed attributeName = true) ∨
    ∃ g ∈ fields, ∃ c ∈ (readField g).1.declaration.constraints, c.rule.sibling? = some (readField f).1.name

instance (fields : List Field) : DecidablePred (TakesPart fields) :=
  fun _ => inferInstanceAs (Decidable (_ ∨ _))

theorem readField_of_plain {f : Field} (h : ∀ a ∈ f.attributes, a.isNamed attributeName = false) :
    readField f = (AnnotatedField.ofField f, []) := by
  have hNone : f.attributes.filter (·.isNamed attributeName) = [] :=
    List.filter_eq_nil_iff.mpr fun a ha => by simp [h a ha]
  have hPlain : f.attributes.any (·.isNamed attributeName) = false :=
    List.any_eq_false.mpr fun a ha => by simp [h a ha]
  rw [readField, applyItems, hNone, hPlain]
  rfl

theorem mem_siblings_iff (fields : List AnnotatedField) (name : String) :
    name ∈ siblings fields ↔ ∃ a ∈ fields, ∃ c ∈ a.declaration.constraints, c.rule.sibling? = some name := by
  simp [siblings, AnnotatedField.declaration]

theorem fields_unchecked (i : Item) (fields : List Field) :
    (unchecked i fields).fields = (fields.filter fun f => TakesPart fields f).map fun f => (readField f).1 := by
  change participants (fields.map fun f => (readField f).1) = _
  rw [participants, List.filter_map]
  congr 1
  refine List.filter_congr fun f _ => ?_
  rw [Function.comp, Bool.eq_iff_iff, decide_eq_true_iff, Bool.or_eq_true, List.contains_iff_mem, mem_siblings_iff,
    (readField_isOf f).annotated_eq, List.any_eq_true, TakesPart]
  simp only [List.mem_map, exists_exists_and_eq_and]

/-- If a rule of a model reads a name, the model has the fields of that name that the structure has. -/
theorem exists_named_iff {i : Item} {fields : List Field} {a : AnnotatedField} (ha : a ∈ (unchecked i fields).fields)
    {c : Constraint} (hc : c ∈ a.declaration.constraints) {other : String}
    (hSibling : c.rule.sibling? = some other) :
    (∃ d ∈ (unchecked i fields).declaration.fields, d.name = other) ↔
      ∃ f ∈ fields, (readField f).1.name = other := by
  rw [fields_unchecked] at ha
  obtain ⟨reader, hReader, rfl⟩ := List.mem_map.mp ha
  rw [AnnotatedModel.declaration, fields_unchecked]
  simp only [List.mem_map, exists_exists_and_eq_and, List.mem_filter, decide_eq_true_iff]
  constructor
  · rintro ⟨f, ⟨hf, -⟩, hName⟩
    exact ⟨f, hf, hName⟩
  · rintro ⟨f, hf, rfl⟩
    exact ⟨f, ⟨hf, .inr ⟨reader, (List.mem_filter.mp hReader).1, c, hc, hSibling⟩⟩, rfl⟩

/-- The rules of a field of a model are checked if the field has a name that is not blank. -/
theorem mem_located_constraint_iff {d : ModelDeclaration} {n j : Nat} {f : FieldDeclaration} {c : Constraint}
    (hField : d.fields[n]? = some f) (hNamed : Text.blank f.name = false) (hConstraint : f.constraints[j]? = some c)
    (x : Defect) : (.constraint n j, x) ∈ d.located ↔ c.rule.HasDefect d f x := by
  rw [ModelDeclaration.mem_located_iff]
  constructor
  · rintro ⟨⟩
    next hOther hAt hRule =>
      cases hField.symm.trans hOther
      cases hConstraint.symm.trans hAt
      exact hRule
  · exact .rule hField hNamed hConstraint

/-- A rule is reported as dangling exactly if no field has the name that it reads. A field that reads itself has the
name. -/
theorem hasDefect_danglingReference_iff {d : ModelDeclaration} {f : FieldDeclaration} (hf : f ∈ d.fields) {r : Rule}
    {other : String} (hSibling : r.sibling? = some other) :
    r.HasDefect d f (.danglingReference f.name other r.name) ↔ ∀ g ∈ d.fields, g.name ≠ other := by
  constructor
  · rintro ⟨⟩
    assumption
  · exact fun hMissing => .danglingReference hSibling (hMissing f hf).symm hMissing

/-- What a structure leaves out of its model is neither checked nor missed: the fields that are checked are those
that take part, in order; the others have no rules; and a rule is reported as dangling exactly if the whole structure
has no field of the name that it reads. -/
theorem participants_suffice {i : Item} {fields : List Field} (hBody : i.body = .named fields) (h : Reads i fields) :
    (ofItem i = if (unchecked i fields).diagnostics = [] then .ok (unchecked i fields)
      else .error (unchecked i fields).diagnostics) ∧
    (unchecked i fields).fields = (fields.filter fun f => TakesPart fields f).map (fun f => (readField f).1) ∧
    (∀ f ∈ fields, ¬ TakesPart fields f →
      (readField f).1.constraints = [] ∧ (readField f).1.sanitize = none ∧ (readField f).1.validators = []) ∧
    (unchecked i fields).diagnostics = (unchecked i fields).declaration.located.map (fun e =>
      ⟨(unchecked i fields).spotOf e.2, (DeclarationError.mk (unchecked i fields).name e.2).message⟩) ∧
    ∀ n j a c other, (unchecked i fields).fields[n]? = some a → Text.blank a.name = false →
      a.declaration.constraints[j]? = some c → c.rule.sibling? = some other →
      ((.constraint n j, .danglingReference a.name other c.rule.name) ∈ (unchecked i fields).declaration.located ↔
        ∀ f ∈ fields, (readField f).1.name ≠ other) := by
  refine ⟨?_, fields_unchecked i fields, ?_, ?_, ?_⟩
  · rw [ofItem, hBody]
    exact ofFields_of_reads h
  · intro f _ hLeft
    rw [TakesPart, not_or, not_exists] at hLeft
    rw [readField_of_plain fun a ha => Bool.eq_false_iff.mpr fun hNamed => hLeft.1 a ⟨ha, hNamed⟩]
    exact ⟨rfl, rfl, rfl⟩
  · rw [AnnotatedModel.diagnostics, ModelDeclaration.errors, ← ModelDeclaration.map_located, List.map_map,
      List.map_map]
    rfl
  · intro n j a c other hField hNamed hConstraint hSibling
    have ha : a ∈ (unchecked i fields).fields := List.mem_of_getElem? hField
    have hDeclared : (unchecked i fields).declaration.fields[n]? = some a.declaration := by
      rw [AnnotatedModel.declaration, List.getElem?_map, hField]
      rfl
    have hNone := not_congr (exists_named_iff ha (List.mem_of_getElem? hConstraint) hSibling)
    simp only [not_exists, not_and] at hNone
    rw [← hNone]
    exact (mem_located_constraint_iff hDeclared hNamed hConstraint _).trans
      (hasDefect_danglingReference_iff (List.mem_of_getElem? hDeclared) hSibling)

theorem participants_of_signup :
    Reads (Signup.item []) Signup.fields ∧
      (unchecked (Signup.item []) Signup.fields).fields = [(readField Signup.nick).1, (readField Signup.age).1] := by
  have hReads : Reads (Signup.item []) Signup.fields := ⟨rfl, by decide +kernel⟩
  have hNick : TakesPart Signup.fields Signup.nick := by decide +kernel
  have hAge : TakesPart Signup.fields Signup.age := by decide +kernel
  have hPicture : ¬ TakesPart Signup.fields Signup.picture := by decide +kernel
  have hKept : (Signup.fields.filter fun f => TakesPart Signup.fields f) = [Signup.nick, Signup.age] := by
    rw [Signup.fields] at hNick hAge hPicture ⊢
    simp [hNick, hAge, hPicture]
  refine ⟨hReads, (participants_suffice rfl hReads).2.1.trans ?_⟩
  rw [hKept]
  rfl

end FieldRules.Derive
