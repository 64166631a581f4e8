import FieldRules.Proofs.Keyed
import FieldRules.Proofs.Plan.Steps
import FieldRules.Prepared

/-!
# Sanitized records

After all sanitize steps of a plan, each name reads as its old value under the directive of the field of that
name. The statement is about any view of records on which a directive acts at one name alone; the view by
value is one for every kind of record.
-/
set_option autoImplicit false

namespace FieldRules

namespace FieldDeclaration

def clean (f : FieldDeclaration) (v : Value) : Value :=
  match f.sanitize with
  | some d => v.sanitize d
  | none => v

variable {ρ : Type} [Record ρ]

/-- The record after the directive of a field, if that changes anything. -/
def applyTo (f : FieldDeclaration) (r : ρ) : ρ :=
  match f.directive? with
  | some d => Record.sanitized r f.name d
  | none => r

end FieldDeclaration

theorem Value.sanitize_of_isNoop {d : Directive} (h : d.isNoop = true) (v : Value) : v.sanitize d = v := by
  cases v with
  | text s => exact congrArg Value.text (d.clean_of_isNoop h s)
  | _ => rfl

/-- Leaving out a directive that changes nothing makes no difference. -/
theorem FieldDeclaration.clean_eq_elim (f : FieldDeclaration) (v : Value) :
    f.clean v = f.directive?.elim v v.sanitize := by
  unfold clean directive?
  cases f.sanitize with
  | none => rfl
  | some d =>
    cases hNoop : d.isNoop with
    | true => simp [Option.filter, hNoop, Value.sanitize_of_isNoop hNoop]
    | false => simp [Option.filter, hNoop]

namespace Record

variable {ρ β : Type} [Record ρ]

/-- On records of a kind, a directive on a name acts on the view at that name and on nothing else. -/
structure ActsAt (P : ρ → Prop) (view : ρ → String → β) (act : Directive → β → β) : Prop where
  keeps : ∀ r name d, P r → P (sanitized r name d)
  view_eq : ∀ r name d other, P r →
    view (sanitized r name d) other = if other = name then act d (view r other) else view r other

namespace ActsAt

variable {P : ρ → Prop} {view : ρ → String → β} {act : Directive → β → β}

theorem keeps_applyTo (h : ActsAt P view act) {r : ρ} (hr : P r) (f : FieldDeclaration) : P (f.applyTo r) := by
  unfold FieldDeclaration.applyTo
  split
  · exact h.keeps r f.name _ hr
  · exact hr

theorem view_applyTo_self (h : ActsAt P view act) {r : ρ} (hr : P r) (f : FieldDeclaration) :
    view (f.applyTo r) f.name = f.directive?.elim (view r f.name) (act · (view r f.name)) := by
  unfold FieldDeclaration.applyTo
  split
  · next d hd => rw [h.view_eq r f.name d f.name hr, if_pos rfl, hd, Option.elim_some]
  · next hd => rw [hd, Option.elim_none]

theorem view_applyTo_other (h : ActsAt P view act) {r : ρ} (hr : P r) {f : FieldDeclaration} {other : String}
    (hOther : other ≠ f.name) : view (f.applyTo r) other = view r other := by
  unfold FieldDeclaration.applyTo
  split
  · next d _ => rw [h.view_eq r f.name d other hr, if_neg hOther]
  · rfl

/-- By induction on the fields: the names behind a field are different ones, so its own directive is the only
one that reaches it. -/
theorem view_foldl (h : ActsAt P view act) (fields : List FieldDeclaration)
    (hNodup : (fields.map FieldDeclaration.name).Nodup) (r : ρ) (hr : P r) :
    P (fields.foldl (fun r f => f.applyTo r) r) ∧
    (∀ f ∈ fields, view (fields.foldl (fun r f => f.applyTo r) r) f.name =
      f.directive?.elim (view r f.name) (act · (view r f.name))) ∧
    ∀ other, other ∉ fields.map FieldDeclaration.name →
      view (fields.foldl (fun r f => f.applyTo r) r) other = view r other := by
  induction fields generalizing r with
  | nil => exact ⟨hr, fun f hf => absurd hf List.not_mem_nil, fun _ _ => rfl⟩
  | cons f rest ih =>
    rw [List.map_cons, List.nodup_cons] at hNodup
    obtain ⟨hFresh, hNodup⟩ := hNodup
    obtain ⟨hKept, hRest, hOthers⟩ := ih hNodup (f.applyTo r) (h.keeps_applyTo hr f)
    rw [List.foldl_cons]
    refine ⟨hKept, ?_, ?_⟩
    · intro g hg
      rcases List.mem_cons.mp hg with rfl | hg
      · rw [hOthers g.name hFresh, h.view_applyTo_self hr]
      · have hName : g.name ≠ f.name := by
          intro hEq
          exact hFresh (hEq ▸ List.mem_map.mpr ⟨g, hg, rfl⟩)
        rw [hRest g hg, h.view_applyTo_other hr hName]
    · intro other hOther
      rw [List.map_cons, List.mem_cons, not_or] at hOther
      rw [hOthers other hOther.2, h.view_applyTo_other hr hOther.1]

end ActsAt
end Record

namespace Plan

theorem sanitizeSteps_eq_flatMap (start : Nat) (fields : List FieldDeclaration) :
    sanitizeSteps start fields =
      (fields.zipIdx start).flatMap fun e => (e.1.directive?.map (SanitizeStep.mk e.2)).toList := by
  induction fields generalizing start with
  | nil => rfl
  | cons f rest ih => rw [sanitizeSteps, ih, List.zipIdx_cons, List.flatMap_cons]

end Plan

namespace PreparedModel

variable {ρ : Type} [Record ρ]

theorem foldl_step_of_field {d : ModelDeclaration} {f : FieldDeclaration} {index : Nat}
    (hf : d.fields[index]? = some f) (r : ρ) :
    ((f.directive?.map (SanitizeStep.mk index)).toList).foldl (applyDirective (Plan.ofDeclaration d)) r =
      f.applyTo r := by
  unfold FieldDeclaration.applyTo
  cases f.directive? with
  | none => rfl
  | some directive =>
    simp only [Option.map_some, Option.toList_some, List.foldl_cons, List.foldl_nil, applyDirective,
      Plan.fields_getElem?, hf]
    rfl

/-- The steps of a plan, which go by index, are the directives of the fields in order. -/
theorem sanitize_eq_foldl (d : ModelDeclaration) (r : ρ) :
    sanitize (Plan.ofDeclaration d) r = d.fields.foldl (fun r f => f.applyTo r) r := by
  have hSteps : (Plan.ofDeclaration d).sanitize = d.fields.zipIdx.flatMap
      fun e => (e.1.directive?.map (SanitizeStep.mk e.2)).toList := Plan.sanitizeSteps_eq_flatMap 0 d.fields
  rw [sanitize, hSteps, List.foldl_flatMap]
  calc
    _ = d.fields.zipIdx.foldl (fun r e => e.1.applyTo r) r :=
      List.foldl_ext _ _ r fun r e he => foldl_step_of_field (List.mem_zipIdx_iff_getElem?.mp he) r
    _ = (d.fields.zipIdx.map Prod.fst).foldl (fun r f => f.applyTo r) r := by rw [List.foldl_map]
    _ = _ := by rw [List.zipIdx_map_fst]

end PreparedModel

namespace DynamicRecord

theorem read_eq (r : DynamicRecord) (name : String) : Record.read r name = (r.get? name).getD .null :=
  rfl

theorem sanitized_eq (r : DynamicRecord) (name : String) (d : Directive) :
    Record.sanitized r name d = ((r.get? name).map fun v => r.set name (v.sanitize d)).getD r :=
  rfl

theorem get?_set (r : DynamicRecord) (name : String) (v : Value) (other : String) :
    (r.set name v).get? other = if name = other then some v else r.get? other :=
  Keyed.get?_insert r.fields name other v

/-- A directive leaves the name of the record and the names and order of its fields as they are. -/
theorem actsAt_get? (start : DynamicRecord) :
    Record.ActsAt (fun r : DynamicRecord => r.name = start.name ∧ r.fields.names = start.fields.names) get?
      (fun d v => v.map (Value.sanitize d)) where
  keeps r name d hr := by
    rw [sanitized_eq]
    cases hGet : r.get? name with
    | none => exact hr
    | some v => exact ⟨hr.1, (Keyed.names_insert_of_get? hGet _).trans hr.2⟩
  view_eq r name d other _ := by
    rw [sanitized_eq]
    cases hGet : r.get? name with
    | none =>
      by_cases hOther : other = name
      · simp [hOther, hGet]
      · simp [hOther]
    | some v =>
      by_cases hOther : other = name
      · simp [hOther, hGet, get?_set]
      · simp [hOther, get?_set, Ne.symm hOther]

theorem elim_map_sanitize (f : FieldDeclaration) (v : Option Value) :
    f.directive?.elim v (fun d => v.map (Value.sanitize d)) = v.map f.clean := by
  cases v with
  | none => cases f.directive? <;> rfl
  | some v =>
    rw [Option.map_some, f.clean_eq_elim]
    cases f.directive? <;> rfl

end DynamicRecord
end FieldRules
