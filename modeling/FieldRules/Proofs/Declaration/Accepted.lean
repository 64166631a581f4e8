import FieldRules.Declaration.Check

/-!
# Accepted declarations

What the check of declarations promises to everything behind it: fields have different names, and a
conditional rule reads a field that is there.
-/
set_option autoImplicit false

namespace FieldRules.ModelDeclaration

theorem fieldDefects_eq_nil_iff (d : ModelDeclaration) (seen : List String) (fields : List FieldDeclaration) :
    d.fieldDefects seen fields = [] ↔
      (∀ f ∈ fields, Text.blank f.name = false ∧ f.name ∉ seen ∧
        ∀ c ∈ f.constraints, c.rule.defects d f = []) ∧
      (fields.map FieldDeclaration.name).Nodup := by
  induction fields generalizing seen with
  | nil => simp [fieldDefects]
  | cons f rest ih =>
    rw [fieldDefects]
    cases hBlank : Text.blank f.name with
    | true => simp [hBlank]
    | false =>
      simp only [Bool.false_eq_true, if_false, List.append_eq_nil_iff, ih, List.flatMap_eq_nil_iff,
        List.mem_cons, not_or, List.map_cons, List.nodup_cons, List.mem_map, forall_eq_or_imp, hBlank,
        true_and]
      constructor
      · rintro ⟨⟨hSeen, hRules⟩, hRest, hNodup⟩
        refine ⟨⟨⟨by simpa using hSeen, hRules⟩, fun g hg => ?_⟩, ?_, hNodup⟩
        · exact ⟨(hRest g hg).1, (hRest g hg).2.1.2, (hRest g hg).2.2⟩
        · rintro ⟨g, hg, hName⟩
          exact (hRest g hg).2.1.1 hName
      · rintro ⟨⟨⟨hSeen, hRules⟩, hRest⟩, hFresh, hNodup⟩
        refine ⟨⟨by simpa using hSeen, hRules⟩, fun g hg => ?_, hNodup⟩
        exact ⟨(hRest g hg).1, ⟨fun hName => hFresh ⟨g, hg, hName⟩, (hRest g hg).2.1⟩, (hRest g hg).2.2⟩

theorem isAccepted_iff (d : ModelDeclaration) : d.isAccepted = true ↔ d.defects = [] := by
  simp [isAccepted]

theorem errors_eq_nil_iff (d : ModelDeclaration) : d.errors = [] ↔ d.isAccepted = true := by
  rw [isAccepted_iff, errors, List.map_eq_nil_iff]

theorem mem_fields_of_field? {d : ModelDeclaration} {name : String} {f : FieldDeclaration}
    (h : d.field? name = some f) : f ∈ d.fields ∧ f.name = name := by
  rw [field?] at h
  exact ⟨List.mem_of_find?_eq_some h, by simpa using List.find?_some h⟩

section Accepted

variable {d : ModelDeclaration}

theorem fieldDefects_of_isAccepted (h : d.isAccepted = true) : d.fieldDefects [] d.fields = [] := by
  rw [isAccepted_iff, defects] at h
  exact (List.append_eq_nil_iff.mp h).2

theorem names_nodup (h : d.isAccepted = true) : (d.fields.map FieldDeclaration.name).Nodup :=
  ((d.fieldDefects_eq_nil_iff [] d.fields).mp (fieldDefects_of_isAccepted h)).2

theorem sibling_declared (h : d.isAccepted = true) {f : FieldDeclaration} (hf : f ∈ d.fields)
    {c : Constraint} (hc : c ∈ f.constraints) {other : String} (hOther : c.rule.sibling? = some other) :
    ∃ g ∈ d.fields, g.name = other := by
  have hDefects : c.rule.defects d f = [] :=
    (((d.fieldDefects_eq_nil_iff [] d.fields).mp (fieldDefects_of_isAccepted h)).1 f hf).2.2 c hc
  have hReference : c.rule.referenceDefect d f.name = [] := (List.append_eq_nil_iff.mp hDefects).2
  rw [Rule.referenceDefect, hOther] at hReference
  cases hField : d.field? other with
  | none =>
    simp only [hField, Option.isNone_none, if_true] at hReference
    split at hReference <;> cases hReference
  | some g =>
    exact ⟨g, mem_fields_of_field? hField⟩

end Accepted

theorem fieldIndex?_of_declared {d : ModelDeclaration} {name : String} (h : ∃ f ∈ d.fields, f.name = name) :
    ∃ index f, d.fieldIndex? name = some index ∧ d.fields[index]? = some f ∧ f.name = name := by
  obtain ⟨f, hf, hName⟩ := h
  cases hIndex : d.fieldIndex? name with
  | none =>
    have hOthers := List.findIdx?_eq_none_iff.mp hIndex f hf
    simp [hName] at hOthers
  | some index =>
    obtain ⟨hLt, hFound, _⟩ := List.findIdx?_eq_some_iff_getElem.mp hIndex
    exact ⟨index, d.fields[index], rfl, List.getElem?_eq_getElem hLt, beq_iff_eq.mp hFound⟩

end FieldRules.ModelDeclaration
