import FieldRules.Proofs.Declaration.Reduced

/-!
# What plans keep

The plan of a declaration, accepted or not, has the fields of the declaration one for one, and under each index
the steps of this field in their order. So the declaration can be recovered from it, up to directives that change
nothing and up to the choice between a label and no label, and what is recovered runs like the declaration.
-/
set_option autoImplicit false

namespace FieldRules

def ModelDeclaration.FirstNamed (d : ModelDeclaration) (name : String) : Option Nat → Prop
  | some index => (∃ f, d.fields[index]? = some f ∧ f.name = name) ∧
      ∀ earlier < index, ∀ g, d.fields[earlier]? = some g → g.name ≠ name
  | none => ∀ f ∈ d.fields, f.name ≠ name

theorem ModelDeclaration.firstNamed_fieldIndex? (d : ModelDeclaration) (name : String) :
    d.FirstNamed name (d.fieldIndex? name) := by
  cases hFind : d.fieldIndex? name with
  | none =>
    intro f hf
    simpa using List.findIdx?_eq_none_iff.mp hFind f hf
  | some index =>
    obtain ⟨hLt, hName, hEarlier⟩ := List.findIdx?_eq_some_iff_getElem.mp hFind
    refine ⟨⟨d.fields[index], List.getElem?_eq_getElem hLt, by simpa using hName⟩, ?_⟩
    intro earlier hBefore g hg
    obtain ⟨hEarlierLt, rfl⟩ := List.getElem?_eq_some_iff.mp hg
    simpa using hEarlier earlier hBefore

/-- The field with its label written out and without a directive that changes nothing. -/
def FieldDeclaration.spelledOut (f : FieldDeclaration) : FieldDeclaration :=
  { f with displayName := some f.label, sanitize := f.directive? }

theorem FieldDeclaration.directive?_eq_some_iff {f : FieldDeclaration} {directive : Directive} :
    f.directive? = some directive ↔ f.sanitize = some directive ∧ directive.isNoop = false := by
  simp [directive?, Option.filter_eq_some_iff]

theorem FieldDeclaration.directive?_spelledOut (f : FieldDeclaration) :
    f.spelledOut.directive? = f.directive? := by
  apply Option.ext
  intro directive
  rw [directive?_eq_some_iff, spelledOut, directive?_eq_some_iff, and_assoc, and_self]

namespace Plan

section Sanitize

variable (d : ModelDeclaration)

theorem sanitize_eq_flatMap : (ofDeclaration d).sanitize =
    d.fields.zipIdx.flatMap fun e => (e.1.directive?.map (SanitizeStep.mk e.2)).toList :=
  sanitizeSteps_eq_flatMap 0 d.fields

theorem mem_sanitize_iff (s : SanitizeStep) :
    s ∈ (ofDeclaration d).sanitize ↔ ∃ f, d.fields[s.field]? = some f ∧ f.directive? = some s.directive := by
  rw [sanitize_eq_flatMap, List.mem_flatMap]
  constructor
  · rintro ⟨⟨f, index⟩, he, hs⟩
    obtain ⟨directive, hDirective, rfl⟩ := Option.map_eq_some_iff.mp (Option.mem_toList.mp hs)
    exact ⟨f, List.mem_zipIdx_iff_getElem?.mp he, hDirective⟩
  · rintro ⟨f, hf, hDirective⟩
    exact ⟨(f, s.field), List.mem_zipIdx_iff_getElem?.mpr hf, by simp [hDirective]⟩

theorem sanitize_pairwise : (ofDeclaration d).sanitize.Pairwise fun s t => s.field < t.field := by
  rw [sanitize_eq_flatMap, List.pairwise_flatMap]
  constructor
  · intro e _
    cases e.1.directive? with
    | none => exact .nil
    | some directive => exact List.pairwise_singleton _ _
  · refine (ModelDeclaration.pairwise_zipIdx d.fields).imp ?_
    intro e e' hLt s hs t ht
    obtain ⟨_, -, rfl⟩ := Option.map_eq_some_iff.mp (Option.mem_toList.mp hs)
    obtain ⟨_, -, rfl⟩ := Option.map_eq_some_iff.mp (Option.mem_toList.mp ht)
    exact hLt

/-- A field has at most one step that sanitizes it, so the first one that is found is its own. -/
theorem find?_sanitize {f : FieldDeclaration} {index : Nat} (hf : d.fields[index]? = some f) :
    ((ofDeclaration d).sanitize.find? fun s => s.field == index).map SanitizeStep.directive = f.directive? := by
  cases hFind : (ofDeclaration d).sanitize.find? fun s => s.field == index with
  | none =>
    cases hDirective : f.directive? with
    | none => rfl
    | some directive =>
      have hMem : ⟨index, directive⟩ ∈ (ofDeclaration d).sanitize :=
        (mem_sanitize_iff d _).mpr ⟨f, hf, hDirective⟩
      exact absurd (List.find?_eq_none.mp hFind _ hMem) (by simp)
  | some s =>
    have hIndex : s.field = index := by simpa using List.find?_some hFind
    obtain ⟨g, hg, hDirective⟩ := (mem_sanitize_iff d s).mp (List.mem_of_find?_eq_some hFind)
    rw [hIndex, hf] at hg
    obtain rfl := Option.some.inj hg
    exact hDirective.symm

end Sanitize

theorem validate_pairwise (d : ModelDeclaration) :
    (ofDeclaration d).validate.Pairwise fun s t => s.field ≤ t.field := by
  rw [validate_eq_flatMap, List.pairwise_flatMap]
  constructor
  · intro e _
    refine List.pairwise_of_forall_mem_list fun s hs t ht => ?_
    exact Nat.le_of_eq ((FieldDeclaration.field_of_mem_steps hs).trans (FieldDeclaration.field_of_mem_steps ht).symm)
  · refine (ModelDeclaration.pairwise_zipIdx d.fields).imp ?_
    intro e e' hLt s hs t ht
    rw [FieldDeclaration.field_of_mem_steps hs, FieldDeclaration.field_of_mem_steps ht]
    exact Nat.le_of_lt hLt

def recoveredField (p : Plan) (index : Nat) (f : PlannedField) : FieldDeclaration :=
  { name := f.name
    fieldType := f.fieldType
    nullable := f.nullable
    displayName := some f.label
    constraints := (p.stepsFor index).filterMap ValidateStep.constraint?
    sanitize := (p.sanitize.find? fun s => s.field == index).map SanitizeStep.directive
    validators := (p.stepsFor index).filterMap ValidateStep.validator? }

def recovered (p : Plan) : ModelDeclaration :=
  { name := p.model
    fields := p.fields.mapIdx p.recoveredField
    hook := p.hook }

theorem recoveredField_ofDeclaration {d : ModelDeclaration} {f : FieldDeclaration} {index : Nat}
    (hf : d.fields[index]? = some f) : (ofDeclaration d).recoveredField index f.planned = f.spelledOut := by
  rw [recoveredField, stepsFor_ofDeclaration, hf, Option.elim_some, FieldDeclaration.constraints_of_steps,
    FieldDeclaration.validators_of_steps, find?_sanitize d hf]
  rfl

theorem recovered_ofDeclaration (d : ModelDeclaration) :
    (ofDeclaration d).recovered = d.mapFields FieldDeclaration.spelledOut := by
  have hFields : (ofDeclaration d).fields.mapIdx (ofDeclaration d).recoveredField =
      d.fields.map FieldDeclaration.spelledOut := by
    refine List.ext_getElem? fun index => ?_
    rw [List.getElem?_mapIdx, fields_getElem?, List.getElem?_map, Option.map_map]
    cases hf : d.fields[index]? with
    | none => rfl
    | some f => exact congrArg some (recoveredField_ofDeclaration hf)
  rw [recovered, hFields]
  rfl

section MapFields

variable (d : ModelDeclaration) {reform : FieldDeclaration → FieldDeclaration}
  (hPlanned : ∀ f, (reform f).planned = f.planned)

include hPlanned

theorem fieldIndex?_mapFields (name : String) : (d.mapFields reform).fieldIndex? name = d.fieldIndex? name := by
  have hName (f : FieldDeclaration) : (reform f).name = f.name := congrArg PlannedField.name (hPlanned f)
  simp [ModelDeclaration.fieldIndex?, ModelDeclaration.mapFields, List.findIdx?_map, Function.comp_def, hName]

/-- What a plan does not look at can be changed in every field. -/
theorem ofDeclaration_mapFields (hDirective : ∀ f, (reform f).directive? = f.directive?)
    (hConstraints : ∀ f, (reform f).constraints = f.constraints)
    (hValidators : ∀ f, (reform f).validators = f.validators) :
    ofDeclaration (d.mapFields reform) = ofDeclaration d := by
  have hSteps (f : FieldDeclaration) (index : Nat) :
      (reform f).steps (d.mapFields reform) index = f.steps d index := by
    rw [FieldDeclaration.steps, FieldDeclaration.steps, hConstraints, hValidators,
      funext (fieldIndex?_mapFields d hPlanned)]
  have hFields : (d.mapFields reform).fields.zipIdx = d.fields.zipIdx.map (Prod.map reform id) := List.zipIdx_map ..
  rw [Plan.mk.injEq]
  refine ⟨rfl, ?_, ?_, ?_, rfl⟩
  · refine (List.map_map ..).trans ?_
    exact List.map_congr_left fun f _ => hPlanned f
  · refine (sanitize_eq_flatMap _).trans (Eq.trans ?_ (sanitize_eq_flatMap d).symm)
    rw [hFields, List.flatMap_map]
    exact List.flatMap_congr fun e _ => by rw [Prod.map_fst, hDirective]; rfl
  · refine (validate_eq_flatMap _).trans (Eq.trans ?_ (validate_eq_flatMap d).symm)
    rw [hFields, List.flatMap_map]
    exact List.flatMap_congr fun e _ => hSteps e.1 e.2

end MapFields

theorem ofDeclaration_recovered (d : ModelDeclaration) :
    ofDeclaration (ofDeclaration d).recovered = ofDeclaration d := by
  rw [recovered_ofDeclaration]
  exact ofDeclaration_mapFields d (fun _ => rfl) FieldDeclaration.directive?_spelledOut (fun _ => rfl) fun _ => rfl

end Plan

theorem FieldDeclaration.spelledOut_reduces (f : FieldDeclaration) : f.spelledOut.Reduces f :=
  ⟨rfl, rfl, fun c hc => ⟨c, hc, rfl⟩, fun _ hw => hw⟩

/-- Two declarations with one plan run alike. -/
theorem PreparedModel.run_eq_of_plan_eq {d e : ModelDeclaration} (h : Plan.ofDeclaration e = Plan.ofDeclaration d)
    (validators : ValidatorSet) {ρ : Type} [Record ρ] (r : ρ) (ctx : Context) :
    (ofDeclaration e validators).run r ctx = (ofDeclaration d validators).run r ctx := by
  have hHook : e.hook = d.hook := congrArg Plan.hook h
  simp only [run, hookEntries, ofDeclaration, h, hHook]

/-- What a plan has of a declaration. -/
structure Plan.Keeps (p : Plan) (d : ModelDeclaration) : Prop where
  model : p.model = d.name
  hook : p.hook = d.hook
  fields : p.fields = d.fields.map FieldDeclaration.planned
  mem_sanitize_iff : ∀ s, s ∈ p.sanitize ↔
    ∃ f, d.fields[s.field]? = some f ∧ f.sanitize = some s.directive ∧ s.directive.isNoop = false
  sanitize_sorted : p.sanitize.Pairwise fun s t => s.field < t.field
  validate_sorted : p.validate.Pairwise fun s t => s.field ≤ t.field
  stepsFor : ∀ index f, d.fields[index]? = some f → p.stepsFor index =
    (f.constraints.map fun c => .constraint index c (c.rule.sibling?.bind d.fieldIndex?)) ++
      f.validators.map (.custom index)
  stepsFor_beyond : ∀ index, d.fields.length ≤ index → p.stepsFor index = []
  firstNamed : ∀ name, d.FirstNamed name (d.fieldIndex? name)
  recovered : p.recovered = d.mapFields FieldDeclaration.spelledOut ∧ ofDeclaration p.recovered = p
  runs_alike : ∀ validators m, PreparedModel.prepare d validators = .ok m →
    ∃ m', PreparedModel.prepare p.recovered validators = .ok m' ∧
      ∀ {ρ : Type} [Record ρ] (r : ρ) (ctx : Context), m'.run r ctx = m.run r ctx

/-- Planning loses, doubles and reorders nothing, whether or not the declaration is accepted. -/
theorem Plan.ofDeclaration_keeps (d : ModelDeclaration) : (ofDeclaration d).Keeps d := by
  constructor
  case model => rfl
  case hook => rfl
  case fields => rfl
  case mem_sanitize_iff =>
    intro s
    simp only [Plan.mem_sanitize_iff, FieldDeclaration.directive?_eq_some_iff]
  case sanitize_sorted => exact sanitize_pairwise d
  case validate_sorted => exact validate_pairwise d
  case stepsFor =>
    intro index f hf
    rw [stepsFor_ofDeclaration, hf]
    rfl
  case stepsFor_beyond =>
    intro index hBeyond
    rw [stepsFor_ofDeclaration, List.getElem?_eq_none hBeyond]
    rfl
  case firstNamed => exact d.firstNamed_fieldIndex?
  case recovered => exact ⟨recovered_ofDeclaration d, ofDeclaration_recovered d⟩
  case runs_alike =>
    intro validators m hPrepared
    obtain ⟨-, -, rfl⟩ := (PreparedModel.prepare_eq_ok_iff d validators m).mp hPrepared
    refine ⟨.ofDeclaration (ofDeclaration d).recovered validators, ?_, ?_⟩
    · rw [recovered_ofDeclaration]
      exact (ModelDeclaration.reduces_mapFields fun f _ => f.spelledOut_reduces).prepare hPrepared
    · intro ρ _ r ctx
      exact PreparedModel.run_eq_of_plan_eq (ofDeclaration_recovered d) validators r ctx

end FieldRules
