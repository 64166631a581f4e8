import FieldRules.Proofs.Declaration.Accepted
import FieldRules.Proofs.Plan.Steps
import FieldRules.Prepared

/-!
# What a declaration asks of a record

The entries and warnings that a declaration calls for are stated field by field, with siblings found by name
and without plans or indexes. A prepared model leaves exactly these on every kind of record, once the record is
sanitized.
-/
set_option autoImplicit false

namespace FieldRules

namespace FieldDeclaration

variable (validators : ValidatorSet) (ctx : Context) (read : String → Value) (model : String)
  (f : FieldDeclaration)

/-- The entry of a constraint of the field that takes part and fails; a conditional rule reads its sibling by
name. -/
def constraintEntries (c : Constraint) : List Entry :=
  if ctx.activates c && !c.rule.passes ctx.now (c.rule.sibling?.map read) (read f.name) then
    [⟨f.name, c.failureMessage f.label ctx.catalog, c.severity⟩]
  else []

/-- How the validator of a reference ends on the value of the field. -/
def validatorResult? (w : ValidatorRef) : Option CustomResult :=
  (validators.validator? w.name).map fun custom => custom.run (read f.name) ctx.services

def site (w : ValidatorRef) : Site :=
  ⟨model, f.name, f.label, w.name⟩

def validatorEntries (w : ValidatorRef) : List Entry :=
  (f.validatorResult? validators ctx read w).elim [] fun result =>
    result.entries (f.site model w) ctx.policy

def validatorWarnings (w : ValidatorRef) : List String :=
  (f.validatorResult? validators ctx read w).elim [] fun result =>
    result.warnings (f.site model w) ctx.policy

/-- Each constraint in order, then each validator in order. -/
def expectedEntries : List Entry :=
  f.constraints.flatMap (f.constraintEntries ctx read) ++
    f.validators.flatMap (f.validatorEntries validators ctx read model)

def expectedWarnings : List String :=
  f.validators.flatMap (f.validatorWarnings validators ctx read model)

end FieldDeclaration

namespace ModelDeclaration

variable (validators : ValidatorSet) (ctx : Context) (read : String → Value) (d : ModelDeclaration)

def expectedEntries : List Entry :=
  d.fields.flatMap (FieldDeclaration.expectedEntries validators ctx read d.name)

def expectedWarnings : List String :=
  d.fields.flatMap (FieldDeclaration.expectedWarnings validators ctx read d.name)

def hookEntries (r : RecordView) : List Entry :=
  (d.hook.bind validators.hook?).elim [] fun hook => hook.run r ctx

structure Resolves : Prop where
  validator : ∀ f ∈ d.fields, ∀ w ∈ f.validators, ∃ custom, validators.validator? w.name = some custom
  hook : ∀ name, d.hook = some name → ∃ hook, validators.hook? name = some hook

theorem referenceErrors_eq_nil_iff :
    d.referenceErrors validators.hasValidator validators.hasHook = [] ↔ d.Resolves validators := by
  have hKnown {α : Type} (entries : Keyed α) (name : String) :
      entries.contains name = true ↔ ∃ a, entries.get? name = some a := Option.isSome_iff_exists
  rw [referenceErrors, List.map_eq_nil_iff, referenceDefects, List.append_eq_nil_iff]
  constructor
  · rintro ⟨hFields, hHook⟩
    refine ⟨fun f hf w hw => ?_, fun name hName => ?_⟩
    · have hNone := List.map_eq_nil_iff.mp (List.flatMap_eq_nil_iff.mp hFields f hf)
      have hHas := List.filter_eq_nil_iff.mp hNone w hw
      exact (hKnown validators.validators w.name).mp (by simpa [ValidatorSet.hasValidator] using hHas)
    · rw [hName] at hHook
      cases hHas : validators.hasHook name with
      | true => exact (hKnown validators.hooks name).mp hHas
      | false => simp [Option.filter, hHas] at hHook
  · rintro ⟨hValidator, hHook⟩
    constructor
    · refine List.flatMap_eq_nil_iff.mpr fun f hf => List.map_eq_nil_iff.mpr ?_
      refine List.filter_eq_nil_iff.mpr fun w hw => ?_
      have hHas : validators.hasValidator w.name = true :=
        (hKnown validators.validators w.name).mpr (hValidator f hf w hw)
      simp [hHas]
    · cases hName : d.hook with
      | none => rfl
      | some name =>
        have hHas : validators.hasHook name = true := (hKnown validators.hooks name).mpr (hHook name hName)
        simp [Option.filter, hHas]

section Reads

variable {d : ModelDeclaration} (h : d.isAccepted = true) {read read' : String → Value}
  (hReads : ∀ f ∈ d.fields, read f.name = read' f.name)

include hReads

include h in
/-- What an accepted declaration asks of a record depends on its declared fields alone. -/
theorem expectedEntries_congr :
    d.expectedEntries validators ctx read = d.expectedEntries validators ctx read' := by
  refine List.flatMap_congr fun f hf => ?_
  have hValidators (w : ValidatorRef) : f.validatorEntries validators ctx read d.name w =
      f.validatorEntries validators ctx read' d.name w := by
    rw [FieldDeclaration.validatorEntries, FieldDeclaration.validatorResult?, hReads f hf]
    rfl
  have hConstraints (c : Constraint) (hc : c ∈ f.constraints) :
      f.constraintEntries ctx read c = f.constraintEntries ctx read' c := by
    have hSibling : c.rule.sibling?.map read = c.rule.sibling?.map read' := by
      cases hOther : c.rule.sibling? with
      | none => rfl
      | some other =>
        obtain ⟨g, hg, rfl⟩ := sibling_declared h hf hc hOther
        rw [Option.map_some, Option.map_some, hReads g hg]
    rw [FieldDeclaration.constraintEntries, FieldDeclaration.constraintEntries, hSibling, hReads f hf]
  rw [FieldDeclaration.expectedEntries, FieldDeclaration.expectedEntries,
    List.flatMap_congr hConstraints, List.flatMap_congr fun w _ => hValidators w]

theorem expectedWarnings_congr :
    d.expectedWarnings validators ctx read = d.expectedWarnings validators ctx read' := by
  refine List.flatMap_congr fun f hf => List.flatMap_congr fun w _ => ?_
  rw [FieldDeclaration.validatorWarnings, FieldDeclaration.validatorResult?, hReads f hf]
  rfl

end Reads

end ModelDeclaration

namespace PreparedModel

def ofDeclaration (d : ModelDeclaration) (validators : ValidatorSet) : PreparedModel :=
  { declaration := d
    plan := .ofDeclaration d
    slots := (Plan.ofDeclaration d).validate.map (slot validators)
    hook := d.hook.bind validators.hook? }

theorem prepare_eq_ok_iff (d : ModelDeclaration) (validators : ValidatorSet) (m : PreparedModel) :
    prepare d validators = .ok m ↔
      d.isAccepted = true ∧ d.Resolves validators ∧ m = ofDeclaration d validators := by
  rw [← d.referenceErrors_eq_nil_iff validators, ← List.isEmpty_iff, prepare, Plan.build]
  cases d.isAccepted with
  | false => simp [Except.bind]
  | true =>
    simp only [if_true, Except.bind, ofPlan]
    cases (d.referenceErrors validators.hasValidator validators.hasHook).isEmpty with
    | false => simp
    | true => simp [ofDeclaration, Plan.ofDeclaration, eq_comm]

theorem prepare_of_checks {d : ModelDeclaration} {validators : ValidatorSet} (hAccepted : d.isAccepted = true)
    (hReferences : d.referenceErrors validators.hasValidator validators.hasHook = []) :
    prepare d validators = .ok (ofDeclaration d validators) := by
  apply (prepare_eq_ok_iff d validators _).mpr
  exact ⟨hAccepted, (d.referenceErrors_eq_nil_iff validators).mp hReferences, rfl⟩

variable {ρ : Type} [Record ρ]

theorem valueAt_eq_read {d : ModelDeclaration} {f : FieldDeclaration} {index : Nat}
    (hf : d.fields[index]? = some f) (r : ρ) :
    valueAt (Plan.ofDeclaration d) r index = Record.read r f.name := by
  rw [valueAt, Plan.fields_getElem?, hf]
  rfl

/-- The index of a sibling leads to the field that has its name. -/
theorem map_valueAt_sibling {d : ModelDeclaration} (h : d.isAccepted = true) {f : FieldDeclaration}
    (hf : f ∈ d.fields) {c : Constraint} (hc : c ∈ f.constraints) (r : ρ) :
    (c.rule.sibling?.bind d.fieldIndex?).map (valueAt (Plan.ofDeclaration d) r) =
      c.rule.sibling?.map (Record.read r) := by
  cases hSibling : c.rule.sibling? with
  | none => rfl
  | some other =>
    obtain ⟨index, g, hIndex, hg, hName⟩ :=
      ModelDeclaration.fieldIndex?_of_declared (ModelDeclaration.sibling_declared h hf hc hSibling)
    rw [Option.bind_some, hIndex, Option.map_some, Option.map_some, valueAt_eq_read hg, hName]

theorem runStep_constraint {d : ModelDeclaration} (h : d.isAccepted = true) {f : FieldDeclaration}
    {index : Nat} (hf : d.fields[index]? = some f) {c : Constraint} (hc : c ∈ f.constraints) (r : ρ)
    (ctx : Context) (slot : Option CustomValidator) :
    runStep (Plan.ofDeclaration d) r ctx
        (.constraint index c (c.rule.sibling?.bind d.fieldIndex?), slot) =
      (f.constraintEntries ctx (Record.read r) c, []) := by
  have hSibling := map_valueAt_sibling h (List.mem_of_getElem? hf) hc r
  simp only [runStep, Plan.fields_getElem?, hf, Option.map_some, constraintEntries, hSibling]
  rfl

theorem runStep_custom {d : ModelDeclaration} {f : FieldDeclaration} {index : Nat}
    (hf : d.fields[index]? = some f) (w : ValidatorRef) (r : ρ) (validators : ValidatorSet)
    (ctx : Context) :
    runStep (Plan.ofDeclaration d) r ctx (.custom index w, slot validators (.custom index w)) =
      (f.validatorEntries validators ctx (Record.read r) d.name w,
        f.validatorWarnings validators ctx (Record.read r) d.name w) := by
  unfold FieldDeclaration.validatorEntries FieldDeclaration.validatorWarnings
    FieldDeclaration.validatorResult?
  have hSlot : slot validators (.custom index w) = validators.validator? w.name := rfl
  rw [hSlot]
  cases validators.validator? w.name with
  | none => rfl
  | some custom =>
    simp only [runStep, Plan.fields_getElem?, hf, Option.map_some, Option.elim_some]
    rfl

/-- What a step adds, with the validator that fills its slot. -/
def stepOutput (d : ModelDeclaration) (validators : ValidatorSet) (r : ρ) (ctx : Context)
    (s : ValidateStep) : List Entry × List String :=
  runStep (Plan.ofDeclaration d) r ctx (s, slot validators s)

theorem entries_of_steps {d : ModelDeclaration} (h : d.isAccepted = true) {f : FieldDeclaration}
    {index : Nat} (hf : d.fields[index]? = some f) (validators : ValidatorSet) (r : ρ) (ctx : Context) :
    (f.steps d index).flatMap (fun s => (stepOutput d validators r ctx s).1) =
      f.expectedEntries validators ctx (Record.read r) d.name := by
  rw [FieldDeclaration.steps, List.flatMap_append, List.flatMap_map, List.flatMap_map]
  congr 1
  · exact List.flatMap_congr fun c hc => congrArg Prod.fst (runStep_constraint h hf hc r ctx _)
  · exact List.flatMap_congr fun w _ => congrArg Prod.fst (runStep_custom hf w r validators ctx)

theorem warnings_of_steps {d : ModelDeclaration} (h : d.isAccepted = true) {f : FieldDeclaration}
    {index : Nat} (hf : d.fields[index]? = some f) (validators : ValidatorSet) (r : ρ) (ctx : Context) :
    (f.steps d index).flatMap (fun s => (stepOutput d validators r ctx s).2) =
      f.expectedWarnings validators ctx (Record.read r) d.name := by
  rw [FieldDeclaration.steps, List.flatMap_append, List.flatMap_map, List.flatMap_map]
  have hConstraints : (f.constraints.flatMap fun c => (stepOutput d validators r ctx
      (.constraint index c (c.rule.sibling?.bind d.fieldIndex?))).2) = [] :=
    List.flatMap_eq_nil_iff.mpr fun c hc => congrArg Prod.snd (runStep_constraint h hf hc r ctx _)
  rw [hConstraints, List.nil_append]
  exact List.flatMap_congr fun w _ => congrArg Prod.snd (runStep_custom hf w r validators ctx)

theorem run_ofDeclaration (d : ModelDeclaration) (validators : ValidatorSet) (r : ρ) (ctx : Context) :
    (ofDeclaration d validators).run r ctx =
      let record := sanitize (Plan.ofDeclaration d) r
      { record
        outcome := ⟨(Plan.ofDeclaration d).validate.flatMap
          (fun s => (stepOutput d validators record ctx s).1) ++
          d.hookEntries validators ctx (Record.view record)⟩
        warnings := (Plan.ofDeclaration d).validate.flatMap
          fun s => (stepOutput d validators record ctx s).2 } := by
  have hZip (steps : List ValidateStep) :
      steps.zip (steps.map (slot validators)) = steps.map fun s => (s, slot validators s) := by
    simpa using List.zip_map' (l := steps) (f := id) (g := slot validators)
  have hHook (record : ρ) : hookEntries (ofDeclaration d validators) record ctx =
      d.hookEntries validators ctx (Record.view record) := by
    simp only [hookEntries, ofDeclaration, ModelDeclaration.hookEntries]
    cases d.hook.bind validators.hook? <;> rfl
  simp only [run, hHook]
  simp only [ofDeclaration, hZip, List.map_map, List.flatMap_map]
  rfl

/-- On every kind of record, a run leaves the sanitized record and what the declaration asks of it. -/
theorem run_eq_expected {d : ModelDeclaration} (h : d.isAccepted = true) (validators : ValidatorSet)
    (r : ρ) (ctx : Context) :
    (ofDeclaration d validators).run r ctx =
      let record := sanitize (Plan.ofDeclaration d) r
      { record
        outcome := ⟨d.expectedEntries validators ctx (Record.read record) ++
          d.hookEntries validators ctx (Record.view record)⟩
        warnings := d.expectedWarnings validators ctx (Record.read record) } := by
  rw [run_ofDeclaration, Plan.validate_eq_flatMap]
  simp only [List.flatMap_assoc]
  rw [Plan.flatMap_zipIdx d.fields fun f index hf => entries_of_steps h hf validators _ ctx,
    Plan.flatMap_zipIdx d.fields fun f index hf => warnings_of_steps h hf validators _ ctx]
  rfl

end PreparedModel
end FieldRules
