import FieldRules.Proofs.Prepared.Expected
import FieldRules.Proofs.Record.Sanitized
import FieldRules.Proofs.Rule.Same
import Mathlib.Data.List.Forall2

/-!
# Declarations that are equal as data

Two equal declarations are accepted together, and on every record they leave entries about the same fields, with
the same severities and in the same order.
-/
set_option autoImplicit false

namespace FieldRules

section Lists

variable {α β γ : Type} {R : α → β → Prop} {xs : List α} {ys : List β}

theorem exists_of_forall₂_right (h : List.Forall₂ R xs ys) {y : β} (hy : y ∈ ys) : ∃ x ∈ xs, R x y := by
  induction h with
  | nil => cases hy
  | cons hHead _ ih =>
    rcases List.mem_cons.mp hy with rfl | hy
    · exact ⟨_, List.mem_cons_self, hHead⟩
    · obtain ⟨x, hx, hR⟩ := ih hy
      exact ⟨x, List.mem_cons_of_mem _ hx, hR⟩

theorem flatMap_eq_of_forall₂ (h : List.Forall₂ R xs ys) {f : α → List γ} {g : β → List γ}
    (hEq : ∀ x y, R x y → f x = g y) : xs.flatMap f = ys.flatMap g := by
  induction h with
  | nil => rfl
  | cons hHead _ ih => rw [List.flatMap_cons, List.flatMap_cons, hEq _ _ hHead, ih]

theorem map_eq_of_forall₂ (h : List.Forall₂ R xs ys) {f : α → γ} {g : β → γ}
    (hEq : ∀ x y, R x y → f x = g y) : xs.map f = ys.map g := by
  induction h with
  | nil => rfl
  | cons hHead _ ih => rw [List.map_cons, List.map_cons, hEq _ _ hHead, ih]

end Lists

def Entry.withoutMessage (e : Entry) : String × Severity :=
  (e.field, e.severity)

/-- The constraints are the same up to the numbers in their rules. -/
structure Constraint.Alike (c c' : Constraint) : Prop where
  rule : c.rule.Alike c'.rule
  message_eq : c.message = c'.message
  severity_eq : c.severity = c'.severity
  group_eq : c.group = c'.group

theorem Constraint.alike_of_same {c c' : Constraint} (h : c.same c' = true) : c.Alike c' := by
  simp only [same, Bool.and_eq_true, beq_iff_eq] at h
  obtain ⟨⟨⟨hRule, hMessage⟩, hSeverity⟩, hGroup⟩ := h
  exact ⟨Rule.alike_of_same hRule, hMessage, hSeverity, hGroup⟩

structure FieldDeclaration.Alike (f f' : FieldDeclaration) : Prop where
  name_eq : f.name = f'.name
  fieldType_eq : f.fieldType = f'.fieldType
  constraints : List.Forall₂ Constraint.Alike f.constraints f'.constraints
  sanitize_eq : f.sanitize = f'.sanitize
  validators_eq : f.validators = f'.validators
  label_eq : f.label = f'.label

namespace FieldDeclaration

theorem constraints_alike_of_same {cs cs' : List Constraint} (h : sameConstraints cs cs' = true) :
    List.Forall₂ Constraint.Alike cs cs' := by
  induction cs generalizing cs' with
  | nil =>
    cases cs' with
    | nil => exact .nil
    | cons c' rest' => cases h
  | cons c rest ih =>
    cases cs' with
    | nil => cases h
    | cons c' rest' =>
      obtain ⟨hHead, hRest⟩ := Bool.and_eq_true_iff.mp h
      exact .cons (Constraint.alike_of_same hHead) (ih hRest)

theorem alike_of_same {f f' : FieldDeclaration} (h : f.same f' = true) : f.Alike f' := by
  simp only [same, Bool.and_eq_true, beq_iff_eq] at h
  obtain ⟨⟨⟨⟨⟨⟨hName, hType⟩, _⟩, hDisplay⟩, hConstraints⟩, hSanitize⟩, hValidators⟩ := h
  refine ⟨hName, hType, constraints_alike_of_same hConstraints, hSanitize, hValidators, ?_⟩
  rw [label, label, hDisplay, hName]

end FieldDeclaration

structure ModelDeclaration.Alike (d e : ModelDeclaration) : Prop where
  name_eq : d.name = e.name
  fields : List.Forall₂ FieldDeclaration.Alike d.fields e.fields
  hook_eq : d.hook = e.hook

theorem ModelDeclaration.alike_of_same {d e : ModelDeclaration} (h : d.same e = true) : d.Alike e := by
  have hFields {fs gs : List FieldDeclaration} (hSame : sameFields fs gs = true) :
      List.Forall₂ FieldDeclaration.Alike fs gs := by
    induction fs generalizing gs with
    | nil =>
      cases gs with
      | nil => exact .nil
      | cons g rest => cases hSame
    | cons f rest ih =>
      cases gs with
      | nil => cases hSame
      | cons g rest' =>
        obtain ⟨hHead, hRest⟩ := Bool.and_eq_true_iff.mp hSame
        exact .cons (FieldDeclaration.alike_of_same hHead) (ih hRest)
  simp only [same, Bool.and_eq_true, beq_iff_eq] at h
  exact ⟨h.1.1, hFields h.1.2, h.2⟩

namespace ModelDeclaration.Alike

variable {d e : ModelDeclaration} (h : d.Alike e)

include h

theorem names_eq : d.fields.map FieldDeclaration.name = e.fields.map FieldDeclaration.name :=
  map_eq_of_forall₂ h.fields fun _ _ hField => hField.name_eq

theorem field?_isNone_eq (name : String) : (d.field? name).isNone = (e.field? name).isNone := by
  have hDeclared (m : ModelDeclaration) :
      (m.field? name).isNone = true ↔ name ∉ m.fields.map FieldDeclaration.name := by
    simp [field?]
  rw [Bool.eq_iff_iff, hDeclared, hDeclared, h.names_eq]

theorem rule_defects {f f' : FieldDeclaration} (hField : f.Alike f') {r r' : Rule} (hRule : r.Alike r')
    (hNone : r.defects d f = []) : r'.defects e f' = [] := by
  simp only [Rule.defects, List.append_eq_nil_iff] at hNone ⊢
  obtain ⟨⟨⟨hType, hBounds⟩, hEmpty⟩, hReference⟩ := hNone
  rw [← hField.name_eq, ← hField.fieldType_eq, ← hRule.typeDefect_eq, ← hRule.emptySetDefect_eq,
    ← hRule.boundsDefect_eq_nil_iff]
  refine ⟨⟨⟨hType, hBounds⟩, hEmpty⟩, ?_⟩
  simp only [Rule.referenceDefect, ← hRule.sibling?_eq, ← h.field?_isNone_eq] at hReference ⊢
  cases hSibling : r.sibling? with
  | none => rfl
  | some other =>
    simp only [hSibling] at hReference ⊢
    split
    · simp_all
    · split <;> simp_all

theorem isAccepted (hAccepted : d.isAccepted = true) : e.isAccepted = true := by
  rw [isAccepted_iff, defects, List.append_eq_nil_iff, fieldDefects_eq_nil_iff] at hAccepted ⊢
  obtain ⟨hName, hFields, hNodup⟩ := hAccepted
  refine ⟨h.name_eq ▸ hName, fun f' hf' => ?_, h.names_eq ▸ hNodup⟩
  obtain ⟨f, hf, hField⟩ := exists_of_forall₂_right h.fields hf'
  obtain ⟨hBlank, hFresh, hRules⟩ := hFields f hf
  refine ⟨hField.name_eq ▸ hBlank, hField.name_eq ▸ hFresh, fun c' hc' => ?_⟩
  obtain ⟨c, hc, hConstraint⟩ := exists_of_forall₂_right hField.constraints hc'
  exact h.rule_defects hField hConstraint.rule (hRules c hc)

theorem resolves {validators : ValidatorSet} (hResolves : d.Resolves validators) : e.Resolves validators where
  validator f' hf' w hw := by
    obtain ⟨f, hf, hField⟩ := exists_of_forall₂_right h.fields hf'
    exact hResolves.validator f hf w (hField.validators_eq ▸ hw)
  hook name hName := hResolves.hook name (h.hook_eq.trans hName)

variable (validators : ValidatorSet) (ctx : Context)

theorem expectedEntries_eq (read : String → Value) :
    (d.expectedEntries validators ctx read).map Entry.withoutMessage =
      (e.expectedEntries validators ctx read).map Entry.withoutMessage := by
  have hConstraint {f f' : FieldDeclaration} (hField : f.Alike f') {c c' : Constraint}
      (hAlike : c.Alike c') : (f.constraintEntries ctx read c).map Entry.withoutMessage =
        (f'.constraintEntries ctx read c').map Entry.withoutMessage := by
    have hActive : ctx.activates c = ctx.activates c' := by
      rw [Context.activates, Context.activates, Constraint.isActive, Constraint.isActive, hAlike.group_eq]
    rw [FieldDeclaration.constraintEntries, FieldDeclaration.constraintEntries, hActive,
      hAlike.rule.sibling?_eq, hAlike.rule.passes_eq, hField.name_eq]
    split
    · simp [Entry.withoutMessage, hAlike.severity_eq]
    · rfl
  rw [expectedEntries, expectedEntries, List.map_flatMap, List.map_flatMap]
  refine flatMap_eq_of_forall₂ h.fields fun f f' hField => ?_
  have hValidators : f.validatorEntries validators ctx read d.name =
      f'.validatorEntries validators ctx read e.name := by
    funext w
    rw [FieldDeclaration.validatorEntries, FieldDeclaration.validatorEntries,
      FieldDeclaration.validatorResult?, FieldDeclaration.validatorResult?, FieldDeclaration.site,
      FieldDeclaration.site, hField.name_eq, hField.label_eq, h.name_eq]
  simp only [FieldDeclaration.expectedEntries, List.map_append, List.map_flatMap]
  rw [hValidators, hField.validators_eq,
    flatMap_eq_of_forall₂ hField.constraints fun _ _ => hConstraint hField]

theorem expectedWarnings_eq (read : String → Value) :
    d.expectedWarnings validators ctx read = e.expectedWarnings validators ctx read := by
  refine flatMap_eq_of_forall₂ h.fields fun f f' hField => ?_
  rw [FieldDeclaration.expectedWarnings, FieldDeclaration.expectedWarnings, hField.validators_eq]
  refine List.flatMap_congr fun w _ => ?_
  rw [FieldDeclaration.validatorWarnings, FieldDeclaration.validatorWarnings,
    FieldDeclaration.validatorResult?, FieldDeclaration.validatorResult?, FieldDeclaration.site,
    FieldDeclaration.site, hField.name_eq, hField.label_eq, h.name_eq]

theorem sanitize_eq {ρ : Type} [Record ρ] (r : ρ) :
    PreparedModel.sanitize (Plan.ofDeclaration d) r = PreparedModel.sanitize (Plan.ofDeclaration e) r := by
  have hApply {f f' : FieldDeclaration} (hField : f.Alike f') (r : ρ) : f.applyTo r = f'.applyTo r := by
    rw [FieldDeclaration.applyTo, FieldDeclaration.applyTo, FieldDeclaration.directive?,
      FieldDeclaration.directive?, hField.sanitize_eq, hField.name_eq]
  have hFold {fs gs : List FieldDeclaration} (hFields : List.Forall₂ FieldDeclaration.Alike fs gs) (r : ρ) :
      fs.foldl (fun r f => f.applyTo r) r = gs.foldl (fun r f => f.applyTo r) r := by
    induction hFields generalizing r with
    | nil => rfl
    | cons hHead _ ih => rw [List.foldl_cons, List.foldl_cons, hApply hHead, ih]
  rw [PreparedModel.sanitize_eq_foldl, PreparedModel.sanitize_eq_foldl, hFold h.fields]

end ModelDeclaration.Alike

/-- Two validations leave the same record, the same warnings and entries that only differ in what they say. -/
structure Validated.AgreesWith {ρ : Type} (v w : Validated ρ) : Prop where
  record_eq : v.record = w.record
  entries_eq : v.outcome.entries.map Entry.withoutMessage = w.outcome.entries.map Entry.withoutMessage
  warnings_eq : v.warnings = w.warnings

theorem Validated.AgreesWith.refl {ρ : Type} (v : Validated ρ) : v.AgreesWith v :=
  ⟨rfl, rfl, rfl⟩

/-- Equal declarations that are accepted do the same with a record, up to messages. -/
theorem PreparedModel.run_agreesWith {d e : ModelDeclaration} (h : d.Alike e) (hAccepted : d.isAccepted = true)
    (validators : ValidatorSet) {ρ : Type} [Record ρ] (r : ρ) (ctx : Context) :
    ((ofDeclaration d validators).run r ctx).AgreesWith ((ofDeclaration e validators).run r ctx) := by
  rw [run_eq_expected hAccepted, run_eq_expected (h.isAccepted hAccepted), h.sanitize_eq]
  refine ⟨rfl, ?_, h.expectedWarnings_eq validators ctx _⟩
  have hHook (v : RecordView) : d.hookEntries validators ctx v = e.hookEntries validators ctx v := by
    rw [ModelDeclaration.hookEntries, ModelDeclaration.hookEntries, h.hook_eq]
  simp only [List.map_append, h.expectedEntries_eq, hHook]

end FieldRules
