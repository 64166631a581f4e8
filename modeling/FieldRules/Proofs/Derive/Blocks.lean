import FieldRules.Proofs.Derive.Statements

/-!
# Routines field by field

The code of a routine is made step by step, and a step of a custom validator finds its function by counting the
steps that came before it. What comes out is a block for each field: its checks, then its calls, each with the
function that stands beside the validator.
-/
set_option autoImplicit false

namespace FieldRules.Derive

open Source

namespace Routine

variable {m : AnnotatedModel} {a : AnnotatedField} {index : Nat}

/-- The statements of a field: a check for each constraint, then a call for each validator. -/
def fieldStatements (m : AnnotatedModel) (a : AnnotatedField) : List Statement :=
  (a.declaration.constraints.map fun c => .check (checkOf m a c)) ++
    (a.validators.zip a.paths).map fun v => .call a.ident.spelling v.2 (a.declaration.site m.name v.1) v.1.isAsync

theorem validateStatements_append (p : Plan) (earlier first second : List ValidateStep) :
    validateStatements m p earlier (first ++ second) =
      validateStatements m p earlier first ++ validateStatements m p (first.reverse ++ earlier) second := by
  induction first generalizing earlier with
  | nil => rfl
  | cons s rest ih =>
    rw [List.cons_append, validateStatements, ih, validateStatements, List.append_assoc, List.reverse_cons,
      List.append_assoc]
    rfl

theorem customCount_append (first second : List ValidateStep) :
    customCount index (first ++ second) = customCount index first + customCount index second := by
  rw [customCount, List.filter_append, List.length_append]
  rfl

theorem customCount_eq_zero {steps : List ValidateStep} (h : ∀ s ∈ steps, s.field = index → s.validator? = none) :
    customCount index steps = 0 := by
  rw [customCount, List.length_eq_zero_iff, List.filter_eq_nil_iff]
  intro s hs hTaken
  rw [Bool.and_eq_true, beq_iff_eq] at hTaken
  simp [h s hs hTaken.1] at hTaken

theorem checks_eq_map (ha : m.fields[index]? = some a) (earlier : List ValidateStep)
    (constraints : List Constraint) :
    validateStatements m (.ofDeclaration m.declaration) earlier
        (constraints.map fun c => .constraint index c (c.rule.sibling?.bind m.declaration.fieldIndex?)) =
      constraints.map fun c => .check (checkOf m a c) := by
  induction constraints generalizing earlier with
  | nil => rfl
  | cons c rest ih =>
    rw [List.map_cons, validateStatements, validateStatement?_constraint ha, ih]
    rfl

/-- The custom steps that came before are counted, so that the next one finds its own function. -/
theorem calls_eq_map (ha : m.fields[index]? = some a) {earlier : List ValidateStep}
    {done left : List (ValidatorRef × Path)} (hPairs : a.validators.zip a.paths = done ++ left)
    (hCount : customCount index earlier = done.length) :
    validateStatements m (.ofDeclaration m.declaration) earlier (left.map fun v => .custom index v.1) =
      left.map fun v => .call a.ident.spelling v.2 (a.declaration.site m.name v.1) v.1.isAsync := by
  induction left generalizing earlier done with
  | nil => rfl
  | cons v rest ih =>
    have hPath : m.function? index (customCount index earlier) = some v.2 := by
      have hPair : (a.validators.zip a.paths)[done.length]? = some v := by
        rw [hPairs, List.getElem?_append_right (Nat.le_refl _), Nat.sub_self]
        rfl
      rw [AnnotatedModel.function?, ha, Option.bind_some, hCount]
      exact (List.getElem?_zip_eq_some.mp hPair).2
    have hNext : customCount index (.custom index v.1 :: earlier) = (done ++ [v]).length := by
      rw [← List.singleton_append, customCount_append, hCount, List.length_append, Nat.add_comm]
      simp [customCount]
    have hDone : a.validators.zip a.paths = (done ++ [v]) ++ rest := by
      rw [hPairs, List.append_assoc]
      rfl
    rw [List.map_cons, validateStatements, validateStatement?_custom ha v.1 hPath, ih hDone hNext]
    rfl

theorem fieldStatements_eq (ha : m.fields[index]? = some a) (hParallel : a.IsParallel) {earlier : List ValidateStep}
    (hEarlier : ∀ s ∈ earlier, s.field < index) :
    validateStatements m (.ofDeclaration m.declaration) earlier (a.declaration.steps m.declaration index) =
      fieldStatements m a := by
  have hCustom : a.declaration.validators.map (ValidateStep.custom index) =
      (a.validators.zip a.paths).map fun v => .custom index v.1 := by
    have hFirst : (a.validators.zip a.paths).map Prod.fst = a.validators :=
      List.map_fst_zip (Nat.le_of_eq hParallel.paths.symm)
    have hDeclared : a.declaration.validators = (a.validators.zip a.paths).map Prod.fst := hFirst.symm
    rw [hDeclared, List.map_map]
    rfl
  rw [FieldDeclaration.steps, validateStatements_append, checks_eq_map ha, hCustom,
    calls_eq_map ha (List.nil_append (a.validators.zip a.paths)).symm, fieldStatements]
  refine customCount_eq_zero fun s hs hField => ?_
  rcases List.mem_append.mp hs with hs | hs
  · obtain ⟨c, -, rfl⟩ := List.mem_map.mp (List.mem_reverse.mp hs)
    rfl
  · exact absurd hField (Nat.ne_of_lt (hEarlier s hs))

/-- By induction on the fields that are left. The steps before them are of fields with smaller indexes. -/
theorem validateStatements_eq_flatMap (hParallel : ∀ a ∈ m.fields, a.IsParallel) (left : List AnnotatedField)
    {front : List AnnotatedField} (hFields : m.fields = front ++ left) {earlier : List ValidateStep}
    (hEarlier : ∀ s ∈ earlier, s.field < front.length) :
    validateStatements m (.ofDeclaration m.declaration) earlier
        (Plan.validateSteps m.declaration front.length (left.map AnnotatedField.declaration)) =
      left.flatMap (fieldStatements m) := by
  induction left generalizing front earlier with
  | nil => rfl
  | cons a rest ih =>
    have ha : m.fields[front.length]? = some a := by
      rw [hFields, List.getElem?_append_right (Nat.le_refl _), Nat.sub_self]
      rfl
    have hNext : ∀ s ∈ (a.declaration.steps m.declaration front.length).reverse ++ earlier,
        s.field < (front ++ [a]).length := by
      intro s hs
      rw [List.length_append, List.length_singleton]
      rcases List.mem_append.mp hs with hs | hs
      · rw [FieldDeclaration.field_of_mem_steps (List.mem_reverse.mp hs)]
        exact Nat.lt_succ_self _
      · exact Nat.lt_succ_of_lt (hEarlier s hs)
    have hSplit : m.fields = (front ++ [a]) ++ rest := by
      rw [hFields, List.append_assoc]
      rfl
    have hRest := ih hSplit hNext
    rw [List.length_append, List.length_singleton] at hRest
    rw [List.map_cons, Plan.validateSteps, validateStatements_append,
      fieldStatements_eq ha (hParallel a (List.mem_of_getElem? ha)) hEarlier, hRest, List.flatMap_cons]

/-- The routine of a model sanitizes, then goes through the fields, then calls the hook. -/
theorem statements_ofModel (hParallel : ∀ a ∈ m.fields, a.IsParallel) :
    (ofModel m).statements = (Plan.ofDeclaration m.declaration).sanitize.filterMap (sanitizeStatement? m) ++
      m.fields.flatMap (fieldStatements m) ++ (m.hook.map Statement.hook).toList := by
  have hNone : ∀ s ∈ ([] : List ValidateStep), s.field < ([] : List AnnotatedField).length :=
    fun s hs => absurd hs List.not_mem_nil
  have hValidate := validateStatements_eq_flatMap hParallel m.fields (List.nil_append m.fields).symm hNone
  rw [ofModel, ofPlan, ← hValidate]
  rfl

end Routine

end FieldRules.Derive
