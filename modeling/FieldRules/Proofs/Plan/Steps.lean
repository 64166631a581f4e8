import FieldRules.Plan
import Mathlib.Data.List.Basic

/-!
# Steps of plans

The validate steps of a plan are those of the fields with their indexes, in order, and an index of a plan leads
back to the field that was planned.
-/
set_option autoImplicit false

namespace FieldRules

namespace ValidateStep

variable (index : Nat) (c : Constraint) (sibling : Option Nat) (w : ValidatorRef)

@[simp] theorem field_constraint : (constraint index c sibling).field = index :=
  rfl

@[simp] theorem field_custom : (custom index w).field = index :=
  rfl

@[simp] theorem validator?_constraint : (constraint index c sibling).validator? = none :=
  rfl

@[simp] theorem validator?_custom : (custom index w).validator? = some w :=
  rfl

@[simp] theorem constraint?_constraint : (constraint index c sibling).constraint? = some c :=
  rfl

@[simp] theorem constraint?_custom : (custom index w).constraint? = none :=
  rfl

end ValidateStep

theorem FieldDeclaration.field_of_mem_steps {d : ModelDeclaration} {f : FieldDeclaration} {index : Nat}
    {s : ValidateStep} (h : s ∈ f.steps d index) : s.field = index := by
  rcases List.mem_append.mp h with h | h
  · obtain ⟨c, -, rfl⟩ := List.mem_map.mp h
    rfl
  · obtain ⟨w, -, rfl⟩ := List.mem_map.mp h
    rfl

theorem FieldDeclaration.constraints_of_steps (d : ModelDeclaration) (f : FieldDeclaration) (index : Nat) :
    (f.steps d index).filterMap ValidateStep.constraint? = f.constraints := by
  simp [steps, List.filterMap_map, Function.comp_def]

theorem FieldDeclaration.validators_of_steps (d : ModelDeclaration) (f : FieldDeclaration) (index : Nat) :
    (f.steps d index).filterMap ValidateStep.validator? = f.validators := by
  simp [steps, List.filterMap_map, Function.comp_def]

namespace Plan

theorem fields_getElem? (d : ModelDeclaration) (index : Nat) :
    (ofDeclaration d).fields[index]? = d.fields[index]?.map FieldDeclaration.planned := by
  simp [ofDeclaration]

theorem validateSteps_eq_flatMap (d : ModelDeclaration) (start : Nat) (fields : List FieldDeclaration) :
    validateSteps d start fields = (fields.zipIdx start).flatMap fun e => e.1.steps d e.2 := by
  induction fields generalizing start with
  | nil => rfl
  | cons f rest ih => rw [validateSteps, ih, List.zipIdx_cons, List.flatMap_cons]

theorem validate_eq_flatMap (d : ModelDeclaration) :
    (ofDeclaration d).validate = d.fields.zipIdx.flatMap fun e => e.1.steps d e.2 :=
  validateSteps_eq_flatMap d 0 d.fields

/-- Where a function of the steps of a field is one of the field alone, the indexes drop out. -/
theorem flatMap_zipIdx {α β : Type} {f : α × Nat → List β} {g : α → List β} (items : List α)
    (h : ∀ a index, items[index]? = some a → f (a, index) = g a) :
    items.zipIdx.flatMap f = items.flatMap g := by
  calc
    items.zipIdx.flatMap f = items.zipIdx.flatMap fun e => g e.1 :=
      List.flatMap_congr fun e he => h e.1 e.2 (List.mem_zipIdx_iff_getElem?.mp he)
    _ = (items.zipIdx.map Prod.fst).flatMap g := (List.flatMap_map Prod.fst g items.zipIdx).symm
    _ = items.flatMap g := by rw [List.zipIdx_map_fst]

theorem mem_validate_iff (d : ModelDeclaration) (s : ValidateStep) :
    s ∈ (ofDeclaration d).validate ↔
      ∃ (f : FieldDeclaration) (index : Nat), d.fields[index]? = some f ∧ s ∈ f.steps d index := by
  rw [validate_eq_flatMap, List.mem_flatMap]
  constructor
  · rintro ⟨⟨f, index⟩, he, hs⟩
    exact ⟨f, index, List.mem_zipIdx_iff_getElem?.mp he, hs⟩
  · rintro ⟨f, index, hf, hs⟩
    exact ⟨(f, index), List.mem_zipIdx_iff_getElem?.mpr hf, hs⟩

/-- The validators that some steps call for the field at an index. -/
def validatorsAt (index : Nat) (steps : List ValidateStep) : List ValidatorRef :=
  steps.filterMap fun s => if s.field = index then s.validator? else none

section ValidatorsAt

variable (index start : Nat) (w : ValidatorRef) (rest : List ValidateStep)

@[simp] theorem validatorsAt_constraint_cons (c : Constraint) (sibling : Option Nat) :
    validatorsAt index (.constraint start c sibling :: rest) = validatorsAt index rest :=
  List.filterMap_cons_none (ite_self none)

@[simp] theorem validatorsAt_custom_cons : validatorsAt index (.custom start w :: rest) =
    if start = index then w :: validatorsAt index rest else validatorsAt index rest := by
  split
  · next hEq => exact List.filterMap_cons_some (if_pos hEq)
  · next hNe => exact List.filterMap_cons_none (if_neg hNe)

theorem validatorsAt_append (earlier later : List ValidateStep) :
    validatorsAt index (earlier ++ later) = validatorsAt index earlier ++ validatorsAt index later :=
  List.filterMap_append

end ValidatorsAt

/-- By induction on the items, for any index that the first one has. -/
theorem flatMap_zipIdx_at {α β : Type} (items : List α) (g : α → List β) (start position : Nat) :
    (items.zipIdx start).flatMap (fun e => if e.2 = start + position then g e.1 else []) =
      items[position]?.elim [] g := by
  induction items generalizing start position with
  | nil => rfl
  | cons a rest ih =>
    rw [List.zipIdx_cons, List.flatMap_cons]
    cases position with
    | zero =>
      have hRest : (rest.zipIdx (start + 1)).flatMap
          (fun e => if e.2 = start + 0 then g e.1 else []) = [] := by
        refine List.flatMap_eq_nil_iff.mpr fun e he => if_neg ?_
        have hLe := List.le_snd_of_mem_zipIdx he
        omega
      rw [hRest, List.append_nil]
      exact if_pos rfl
    | succ n =>
      have hSucc : start + (n + 1) = start + 1 + n := by omega
      have hNe : start ≠ start + 1 + n := by omega
      rw [hSucc, if_neg hNe, ih (start + 1) n, List.nil_append, List.getElem?_cons_succ]

/-- The steps of a plan that check a field are those that the field was planned with. -/
theorem stepsFor_ofDeclaration (d : ModelDeclaration) (index : Nat) :
    (ofDeclaration d).stepsFor index = d.fields[index]?.elim [] fun f => f.steps d index := by
  have hAt := flatMap_zipIdx_at d.fields (fun f => f.steps d index) 0 index
  rw [Nat.zero_add] at hAt
  rw [stepsFor, validate_eq_flatMap, List.filter_flatMap, ← hAt]
  refine List.flatMap_congr fun e _ => ?_
  split
  · next hEq =>
    rw [hEq]
    exact List.filter_eq_self.mpr fun s hs => by simp [FieldDeclaration.field_of_mem_steps hs]
  · next hNe =>
    exact List.filter_eq_nil_iff.mpr fun s hs => by simp [FieldDeclaration.field_of_mem_steps hs, hNe]

theorem validatorsAt_validate (d : ModelDeclaration) (index : Nat) :
    validatorsAt index (ofDeclaration d).validate = d.fields[index]?.elim [] FieldDeclaration.validators := by
  have hAt : validatorsAt index (ofDeclaration d).validate =
      ((ofDeclaration d).stepsFor index).filterMap ValidateStep.validator? := by
    rw [validatorsAt, stepsFor, List.filterMap_filter]
    simp only [beq_iff_eq]
  rw [hAt, stepsFor_ofDeclaration]
  cases d.fields[index]? with
  | none => rfl
  | some f => exact FieldDeclaration.validators_of_steps d f index

/-- The validators of a field are called in the order in which it refers to them. -/
theorem validator_at {d : ModelDeclaration} {f : FieldDeclaration} {index : Nat}
    (hf : d.fields[index]? = some f) {w : ValidatorRef} {earlier later : List ValidateStep}
    (hSteps : (ofDeclaration d).validate = earlier ++ .custom index w :: later) :
    f.validators[(validatorsAt index earlier).length]? = some w := by
  have hOrder := validatorsAt_validate d index
  rw [hSteps, hf, validatorsAt_append, validatorsAt_custom_cons, if_pos rfl, Option.elim_some] at hOrder
  rw [← hOrder, List.getElem?_append_right (Nat.le_refl _), Nat.sub_self]
  rfl

end Plan
end FieldRules
