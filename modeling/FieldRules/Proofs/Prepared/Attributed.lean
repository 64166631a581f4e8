import FieldRules.Proofs.Prepared.Expected

/-!
# Where entries come from

Without a hook there are four ways to leave an entry: a constraint that fails, a validator that names a field, one
that names none, and one that faults. Only the second leaves the choice of the field to the validator; the others
put the name of the declared field, which is never blank.
-/
set_option autoImplicit false

namespace FieldRules

theorem CustomResult.eq_of_mem_entries_of_fault {result : CustomResult} (hFault : result.fault? ≠ none)
    {site : Site} {policy : FaultPolicy} {e : Entry} (h : e ∈ result.entries site policy) :
    policy = .report ∧
      e = { field := site.field, message := "The " ++ site.label ++ " field could not be validated." } := by
  cases result with
  | finished outcome => exact absurd rfl hFault
  | faulted reason | panicked message =>
    cases policy with
    | absorb => cases h
    | report => exact ⟨rfl, List.mem_singleton.mp h⟩

namespace FieldDeclaration

section Leaves

variable (validators : ValidatorSet) (ctx : Context) (read : String → Value)

/-- The validator of a reference returns an entry of its own on the value of the field. -/
def Returns (f : FieldDeclaration) (w : ValidatorRef) (e : Entry) : Prop :=
  ∃ outcome, f.validatorResult? validators ctx read w = some (.finished outcome) ∧ e ∈ outcome.entries

inductive Leaves (f : FieldDeclaration) : Entry → Prop where
  | constraint (c : Constraint) (hc : c ∈ f.constraints) (hActive : ctx.activates c = true)
      (hFails : c.rule.passes ctx.now (c.rule.sibling?.map read) (read f.name) = false) :
      Leaves f ⟨f.name, c.failureMessage f.label ctx.catalog, c.severity⟩
  | named (w : ValidatorRef) (hw : w ∈ f.validators) (e : Entry) (he : f.Returns validators ctx read w e)
      (hNamed : e.field ≠ "") : Leaves f e
  | unnamed (w : ValidatorRef) (hw : w ∈ f.validators) (e : Entry) (he : f.Returns validators ctx read w e)
      (hUnnamed : e.field = "") : Leaves f { e with field := f.name }
  | fault (w : ValidatorRef) (hw : w ∈ f.validators) (result : CustomResult)
      (hResult : f.validatorResult? validators ctx read w = some result) (hFault : result.fault? ≠ none)
      (hPolicy : ctx.policy = .report) :
      Leaves f { field := f.name, message := "The " ++ f.label ++ " field could not be validated." }

end Leaves

variable {validators : ValidatorSet} {ctx : Context} {read : String → Value} {f : FieldDeclaration} {e : Entry}

theorem leaves_of_mem_constraintEntries {c : Constraint} (hc : c ∈ f.constraints)
    (h : e ∈ f.constraintEntries ctx read c) : f.Leaves validators ctx read e := by
  unfold constraintEntries at h
  split at h
  · next hFails =>
    obtain ⟨hActive, hFails⟩ := Bool.and_eq_true_iff.mp hFails
    obtain rfl := List.mem_singleton.mp h
    exact .constraint c hc hActive (by simpa using hFails)
  · cases h

theorem leaves_of_mem_attributeTo {w : ValidatorRef} (hw : w ∈ f.validators) {outcome : Outcome}
    (hResult : f.validatorResult? validators ctx read w = some (.finished outcome))
    (h : e ∈ (outcome.attributeTo f.name).entries) : f.Leaves validators ctx read e := by
  obtain ⟨returned, hReturned, rfl⟩ := List.mem_map.mp h
  unfold Entry.attributeTo
  split
  · next hEmpty => exact .unnamed w hw returned ⟨outcome, hResult, hReturned⟩ (by simpa using hEmpty)
  · next hEmpty => exact .named w hw returned ⟨outcome, hResult, hReturned⟩ (by simpa using hEmpty)

theorem leaves_of_mem_validatorEntries {model : String} {w : ValidatorRef} (hw : w ∈ f.validators)
    (h : e ∈ f.validatorEntries validators ctx read model w) : f.Leaves validators ctx read e := by
  unfold validatorEntries at h
  cases hResult : f.validatorResult? validators ctx read w with
  | none =>
    rw [hResult] at h
    cases h
  | some result =>
    rw [hResult, Option.elim_some] at h
    by_cases hFault : result.fault? = none
    · cases result with
      | finished outcome => exact leaves_of_mem_attributeTo hw hResult h
      | faulted reason | panicked message => cases hFault
    · obtain ⟨hPolicy, rfl⟩ := CustomResult.eq_of_mem_entries_of_fault hFault h
      exact .fault w hw result hResult hFault hPolicy

theorem leaves_of_mem_expectedEntries {model : String}
    (h : e ∈ f.expectedEntries validators ctx read model) : f.Leaves validators ctx read e := by
  rcases List.mem_append.mp h with h | h
  · obtain ⟨c, hc, he⟩ := List.mem_flatMap.mp h
    exact leaves_of_mem_constraintEntries hc he
  · obtain ⟨w, hw, he⟩ := List.mem_flatMap.mp h
    exact leaves_of_mem_validatorEntries hw he

/-- An entry is on the field itself unless a validator put another name. -/
theorem Leaves.field_cases (h : f.Leaves validators ctx read e) :
    e.field = f.name ∨ e.field ≠ "" ∧ ∃ w ∈ f.validators, f.Returns validators ctx read w e := by
  cases h with
  | constraint | unnamed | fault => exact .inl rfl
  | named w hw e he hNamed => exact .inr ⟨hNamed, w, hw, he⟩

end FieldDeclaration

theorem ModelDeclaration.name_ne_empty {d : ModelDeclaration} (h : d.isAccepted = true) {f : FieldDeclaration}
    (hf : f ∈ d.fields) : f.name ≠ "" := by
  have hBlank : Text.blank f.name = false :=
    (((d.fieldDefects_eq_nil_iff [] d.fields).mp (fieldDefects_of_isAccepted h)).1 f hf).1
  intro hEmpty
  rw [hEmpty] at hBlank
  cases hBlank

namespace PreparedModel

variable {ρ : Type} [Record ρ]

/-- Every entry has a field: the declared one whose constraint or validator left it, or the one that a validator
named. -/
theorem run_attributed {d : ModelDeclaration} {validators : ValidatorSet} {m : PreparedModel}
    (h : prepare d validators = .ok m) (hHook : d.hook = none) (r : ρ) (ctx : Context) {e : Entry}
    (he : e ∈ (m.run r ctx).outcome.entries) :
    e.field ≠ "" ∧ ∃ f ∈ d.fields, f.Leaves validators ctx (Record.read (m.run r ctx).record) e ∧
      (e.field = f.name ∨
        ∃ w ∈ f.validators, f.Returns validators ctx (Record.read (m.run r ctx).record) w e) := by
  obtain ⟨hAccepted, -, rfl⟩ := (prepare_eq_ok_iff d validators m).mp h
  rw [run_eq_expected hAccepted] at he ⊢
  have hNoHook : d.hookEntries validators ctx
      (Record.view (sanitize (Plan.ofDeclaration d) r)) = [] := by
    rw [ModelDeclaration.hookEntries, hHook]
    rfl
  simp only [hNoHook, List.append_nil] at he
  obtain ⟨f, hf, hEntry⟩ := List.mem_flatMap.mp he
  have hLeaves := FieldDeclaration.leaves_of_mem_expectedEntries hEntry
  obtain hOwn | ⟨hNamed, hReturned⟩ := hLeaves.field_cases
  · exact ⟨hOwn ▸ ModelDeclaration.name_ne_empty hAccepted hf, f, hf, hLeaves, .inl hOwn⟩
  · exact ⟨hNamed, f, hf, hLeaves, .inr hReturned⟩

end PreparedModel

namespace Coupon

/-- One field that leaves an entry in each of the four ways if it is null. -/
def declaration : ModelDeclaration :=
  { name := "Coupon"
    fields := [{ name := "code"
                 fieldType := .string
                 constraints := [{ rule := .required }]
                 validators := [{ name := "unused" }, { name := "owned" }, { name := "offline" }] }] }

def validators : ValidatorSet :=
  { validators :=
      [("unused", ⟨fun _ _ => .finished ⟨[{ field := "", message := "Used up." }]⟩⟩),
       ("owned", ⟨fun _ _ => .finished ⟨[{ field := "owner", message := "Nobody owns it." }]⟩⟩),
       ("offline", ⟨fun _ _ => .panicked none⟩)] }

def record : DynamicRecord :=
  ⟨"Coupon", []⟩

def context : Context :=
  { policy := .report }

theorem prepare_declaration :
    PreparedModel.prepare declaration validators = .ok (.ofDeclaration declaration validators) := by
  apply PreparedModel.prepare_of_checks
  · decide +kernel
  · decide +kernel

end Coupon

namespace PreparedModel

theorem run_attributed_coupon :
    prepare Coupon.declaration Coupon.validators = .ok (ofDeclaration Coupon.declaration Coupon.validators) ∧
    Coupon.declaration.hook = none ∧
    ⟨"owner", "Nobody owns it.", .error⟩ ∈ ((ofDeclaration Coupon.declaration Coupon.validators).run
      Coupon.record Coupon.context).outcome.entries ∧
    "owner" ≠ "" ∧ ∃ f ∈ Coupon.declaration.fields,
      f.Leaves Coupon.validators Coupon.context (Record.read ((ofDeclaration Coupon.declaration
        Coupon.validators).run Coupon.record Coupon.context).record) ⟨"owner", "Nobody owns it.", .error⟩ ∧
      ("owner" = f.name ∨ ∃ w ∈ f.validators, f.Returns Coupon.validators Coupon.context
        (Record.read ((ofDeclaration Coupon.declaration Coupon.validators).run Coupon.record
          Coupon.context).record) w ⟨"owner", "Nobody owns it.", .error⟩) := by
  have hEntry : ⟨"owner", "Nobody owns it.", .error⟩ ∈ ((ofDeclaration Coupon.declaration
      Coupon.validators).run Coupon.record Coupon.context).outcome.entries := by decide +kernel
  exact ⟨Coupon.prepare_declaration, rfl, hEntry,
    run_attributed Coupon.prepare_declaration rfl Coupon.record Coupon.context hEntry⟩

end PreparedModel

example : ((PreparedModel.ofDeclaration Coupon.declaration Coupon.validators).run Coupon.record
    Coupon.context).outcome.entries =
    [⟨"code", "The code field is required.", .error⟩, ⟨"code", "Used up.", .error⟩,
      ⟨"owner", "Nobody owns it.", .error⟩, ⟨"code", "The code field could not be validated.", .error⟩] := by
  decide +kernel

end FieldRules
