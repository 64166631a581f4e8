import FieldRules.Proofs.Declaration.Saved
import FieldRules.Proofs.Derive.Grammar
import FieldRules.Proofs.Derive.Model

/-!
# Targets in models of structures

No expression spells a date. So a conditional rule that was read from an attribute never compares with one, and
neither does any rule of an annotated model.
-/
set_option autoImplicit false

namespace FieldRules

/-- The value can be spelled by an expression. -/
def Value.IsSpelled (v : Value) : Prop :=
  ∀ t, v ≠ date t

def Rule.IsSpelled (r : Rule) : Prop :=
  ∀ v ∈ r.target?, v.IsSpelled

theorem Rule.isSpelled_of_target? {r : Rule} (h : r.target? = none) : r.IsSpelled := by
  intro v hv
  rw [h] at hv
  cases hv

/-- No literal stands for a date. -/
theorem Source.Expr.isSpelled_value {e : Expr} {v : Value} (h : e.value = .ok v) : v.IsSpelled := by
  rintro t rfl
  exact isLiteralOf_value h

namespace Derive

open Source

/-- Only two rules have a target, and both read it as a value. -/
theorem Arguments.Spells.isSpelled {a : Arguments} {label : String} {r : Rule} (h : a.Spells label r) :
    r.IsSpelled := by
  have hTarget {target : Value} (hGives : a.Gives "equals" Expr.value (some target)) : target.IsSpelled := by
    obtain ⟨e, -, hValue⟩ := Arguments.gives_some_iff.mp hGives
    exact Expr.isSpelled_value hValue
  unfold Arguments.Spells at h
  split at h
  case h_1 | h_4 | h_5 | h_6 | h_7 | h_8 =>
    subst h
    exact Rule.isSpelled_of_target? rfl
  case h_2 | h_3 =>
    obtain ⟨_, -, _, -, rfl⟩ := h
    exact Rule.isSpelled_of_target? rfl
  case h_9 | h_10 | h_11 =>
    obtain ⟨_, -, rfl⟩ := h
    exact Rule.isSpelled_of_target? rfl
  case h_12 =>
    obtain ⟨_, -, target, hGives, rfl⟩ := h
    rintro _ ⟨⟩
    exact hTarget hGives
  case h_13 =>
    obtain ⟨_, -, target, hGives, _, -, _, -, rfl⟩ := h
    rintro _ ⟨⟩
    exact hTarget hGives
  case h_14 => exact h.elim

theorem isSpelled_constraintOf {i : AttributeItem} {c : Constraint} (h : constraintOf i = .ok c) :
    c.rule.IsSpelled := by
  obtain ⟨-, g, -, hDeclares, -⟩ := (constraintOf_eq_ok_iff i c).mp h
  exact hDeclares.rule.isSpelled

def AnnotatedField.IsSpelled (f : AnnotatedField) : Prop :=
  ∀ c ∈ f.constraints, c.rule.IsSpelled

theorem AnnotatedField.IsSpelled.applyItem {f g : AnnotatedField} (h : f.IsSpelled) {i : AttributeItem}
    (hApply : f.applyItem i = .ok g) : g.IsSpelled := by
  unfold AnnotatedField.applyItem at hApply
  split at hApply
  case h_1 | h_2 | h_4 =>
    obtain ⟨_, -, rfl⟩ := bind_pure_eq_ok_iff.mp hApply
    exact h
  case h_3 =>
    split at hApply
    · cases hApply
    · split at hApply
      · cases hApply
      · obtain ⟨_, -, rfl⟩ := bind_pure_eq_ok_iff.mp hApply
        exact h
  case h_5 =>
    obtain ⟨c, hConstraint, rfl⟩ := bind_pure_eq_ok_iff.mp hApply
    intro d hd
    rcases List.mem_append.mp hd with hd | hd
    · exact h d hd
    · obtain rfl := List.mem_singleton.mp hd
      exact isSpelled_constraintOf hConstraint

theorem isSpelled_readField (f : Field) : (readField f).1.IsSpelled :=
  applyItems_keeps AnnotatedField.IsSpelled (fun _ _ _ hs ht => hs.applyItem ht)
    (fun _ hc => absurd hc List.not_mem_nil) f.attributes

theorem AnnotatedModel.isSpelled_targets {i : Item} {m : AnnotatedModel} (h : ofItem i = .ok m) :
    ∀ v ∈ m.declaration.targets, v.IsSpelled := by
  obtain ⟨fields, -, hModel⟩ := ofItem_eq_ok h
  obtain ⟨-, rfl, -⟩ := (AnnotatedModel.ofFields_eq_ok_iff i fields m).mp hModel
  intro v hv
  obtain ⟨f, hf, c, hc, hTarget⟩ := (ModelDeclaration.mem_targets_iff _ v).mp hv
  obtain ⟨annotated, hAnnotated, rfl⟩ := List.mem_map.mp hf
  obtain ⟨field, -, rfl⟩ := List.mem_map.mp (List.mem_filter.mp hAnnotated).1
  exact isSpelled_readField field c hc v hTarget

end Derive
end FieldRules
