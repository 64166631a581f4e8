import FieldRules.Proofs.Plan.Stored
import FieldRules.Proofs.Declaration.Saved

/-!
# Closed plans

Every index that a step of a closed plan holds leads to a field of the plan, and a conditional rule comes with
the index of its sibling. The plans of accepted declarations are closed.
-/
set_option autoImplicit false

namespace FieldRules

structure Plan.IsClosed (p : Plan) : Prop where
  sanitize_lt : ∀ s ∈ p.sanitize, s.field < p.fields.length
  validate_lt : ∀ s ∈ p.validate, s.field < p.fields.length
  sibling_lt : ∀ index c i, .constraint index c (some i) ∈ p.validate → i < p.fields.length
  /-- A conditional rule reads the one field that has the name of its sibling, and this is another field. -/
  sibling : ∀ index c sibling, .constraint index c sibling ∈ p.validate →
    ∀ other, c.rule.sibling? = some other →
      ∃ i f, sibling = some i ∧ i ≠ index ∧ p.fields[i]? = some f ∧ f.name = other ∧
        ∀ j g, p.fields[j]? = some g → g.name = other → j = i

namespace ModelDeclaration

/-- Two fields of an accepted declaration with one name are the same field. -/
theorem index_unique {d : ModelDeclaration} (h : d.isAccepted = true) {i j : Nat} {f g : FieldDeclaration}
    (hf : d.fields[i]? = some f) (hg : d.fields[j]? = some g) (hName : g.name = f.name) : j = i := by
  obtain ⟨hi, rfl⟩ := List.getElem?_eq_some_iff.mp hf
  obtain ⟨hj, rfl⟩ := List.getElem?_eq_some_iff.mp hg
  have hi' : i < (d.fields.map FieldDeclaration.name).length := by simpa using hi
  have hj' : j < (d.fields.map FieldDeclaration.name).length := by simpa using hj
  have hSame : (d.fields.map FieldDeclaration.name)[j] = (d.fields.map FieldDeclaration.name)[i] := by
    simpa using hName
  exact (names_nodup h).getElem_inj_iff.mp hSame

end ModelDeclaration

namespace Plan

theorem length_fields (d : ModelDeclaration) : (ofDeclaration d).fields.length = d.fields.length :=
  List.length_map _

/-- A constraint step of a plan stands for a constraint of the field that it names. -/
theorem constraint_of_mem_validate {d : ModelDeclaration} {index : Nat} {c : Constraint}
    {sibling : Option Nat} (h : .constraint index c sibling ∈ (ofDeclaration d).validate) :
    ∃ f, d.fields[index]? = some f ∧ c ∈ f.constraints ∧ sibling = c.rule.sibling?.bind d.fieldIndex? := by
  obtain ⟨f, i, hf, hs⟩ := (mem_validate_iff d _).mp h
  rcases List.mem_append.mp hs with hs | hs
  · obtain ⟨c', hc, hEq⟩ := List.mem_map.mp hs
    cases hEq
    exact ⟨f, hf, hc, rfl⟩
  · obtain ⟨w, -, hEq⟩ := List.mem_map.mp hs
    cases hEq

theorem isClosed_ofDeclaration {d : ModelDeclaration} (h : d.isAccepted = true) :
    (ofDeclaration d).IsClosed where
  sanitize_lt s hs := by
    rw [length_fields]
    simpa using field_lt_of_mem_sanitizeSteps hs
  validate_lt s hs := by
    obtain ⟨f, index, hf, hs⟩ := (mem_validate_iff d s).mp hs
    rw [length_fields, FieldDeclaration.field_of_mem_steps hs]
    exact (List.getElem?_eq_some_iff.mp hf).1
  sibling_lt index c i hs := by
    obtain ⟨f, -, -, hSibling⟩ := constraint_of_mem_validate hs
    obtain ⟨other, -, hFind⟩ := Option.bind_eq_some_iff.mp hSibling.symm
    rw [length_fields]
    exact (List.findIdx?_eq_some_iff_getElem.mp hFind).1
  sibling index c sibling hs other hOther := by
    obtain ⟨f, hf, hc, rfl⟩ := constraint_of_mem_validate hs
    have hField := List.mem_of_getElem? hf
    obtain ⟨i, g, hIndex, hg, rfl⟩ := ModelDeclaration.fieldIndex?_of_declared
      (ModelDeclaration.sibling_declared h hField hc hOther)
    refine ⟨i, g.planned, by rw [hOther, Option.bind_some, hIndex], ?_, ?_, rfl, ?_⟩
    · rintro rfl
      rw [hf] at hg
      cases hg
      exact ModelDeclaration.sibling_ne_name h hField hc hOther rfl
    · rw [fields_getElem?, hg, Option.map_some]
    · intro j g' hj hName
      rw [fields_getElem?] at hj
      obtain ⟨f', hf', rfl⟩ := Option.map_eq_some_iff.mp hj
      exact ModelDeclaration.index_unique h hg hf' hName

end Plan
end FieldRules
