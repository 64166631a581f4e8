import FieldRules.Proofs.Declaration.Reduced
import FieldRules.Proofs.Prepared.Dynamic
import Mathlib.Data.List.Flatten

/-!
# Groups

Validating under an active group is validating without one, after the constraints of other groups were taken
out of the declaration and the rest lost their tags. So a group only adds entries to those that are left without
it, and the record comes out the same.
-/
set_option autoImplicit false

namespace FieldRules

namespace Constraint

def untagged (c : Constraint) : Constraint :=
  { c with group := none }

theorem isActive_iff (c : Constraint) (group : Option String) :
    c.isActive group = true ↔ c.group = none ∨ c.group = group := by
  unfold isActive
  cases c.group with
  | none => simp
  | some tag =>
    rw [beq_iff_eq, eq_comm]
    simp

end Constraint

/-- The field without the constraints of other groups, and without tags. -/
def FieldDeclaration.forGroup (group : Option String) (f : FieldDeclaration) : FieldDeclaration :=
  { f with
    constraints := (f.constraints.filter fun c => c.group = none ∨ c.group = group).map Constraint.untagged }

def ModelDeclaration.forGroup (d : ModelDeclaration) (group : Option String) : ModelDeclaration :=
  d.mapFields (.forGroup group)

def Context.ungrouped (ctx : Context) : Context :=
  { ctx with group := none }

/-- What the hook finds does not depend on the active group. -/
def Hook.IgnoresGroup (hook : Hook) : Prop :=
  ∀ (r : RecordView) (ctx : Context) (group : Option String), hook.run r { ctx with group } = hook.run r ctx

namespace FieldDeclaration

theorem forGroup_reduces (group : Option String) (f : FieldDeclaration) : (f.forGroup group).Reduces f where
  name_eq := rfl
  fieldType_eq := rfl
  rules := by
    intro c hc
    obtain ⟨c', hc', rfl⟩ := List.mem_map.mp hc
    exact ⟨c', List.mem_of_mem_filter hc', rfl⟩
  validators _ hw := hw

variable (validators : ValidatorSet) (ctx : Context) (read : String → Value) (f : FieldDeclaration)

theorem constraintEntries_of_inactive {c : Constraint} (h : ctx.activates c = false) :
    f.constraintEntries ctx read c = [] := by
  simp [constraintEntries, h]

theorem constraintEntries_untagged {c : Constraint} (h : ctx.activates c = true) :
    (f.forGroup ctx.group).constraintEntries ctx.ungrouped read c.untagged = f.constraintEntries ctx read c := by
  have hUntagged : ctx.ungrouped.activates c.untagged = true := rfl
  unfold constraintEntries
  rw [h, hUntagged]
  rfl

theorem constraintEntries_ungrouped_sublist (c : Constraint) :
    (f.constraintEntries ctx.ungrouped read c).Sublist (f.constraintEntries ctx read c) := by
  cases hUngrouped : ctx.ungrouped.activates c with
  | false =>
    rw [constraintEntries_of_inactive _ _ _ hUngrouped]
    exact List.nil_sublist _
  | true =>
    have hActive : ctx.activates c = true := by
      refine (c.isActive_iff ctx.group).mpr (.inl ?_)
      simpa [Context.ungrouped] using (c.isActive_iff none).mp hUngrouped
    unfold constraintEntries
    rw [hUngrouped, hActive]
    exact List.Sublist.refl _

theorem expectedEntries_forGroup (model : String) :
    (f.forGroup ctx.group).expectedEntries validators ctx.ungrouped read model =
      f.expectedEntries validators ctx read model := by
  have hActive (c : Constraint) : ctx.activates c = decide (c.group = none ∨ c.group = ctx.group) :=
    Bool.eq_iff_iff.mpr ((c.isActive_iff ctx.group).trans decide_eq_true_iff.symm)
  have hConstraints : (f.forGroup ctx.group).constraints.flatMap
      ((f.forGroup ctx.group).constraintEntries ctx.ungrouped read) =
        f.constraints.flatMap (f.constraintEntries ctx read) := by
    -- Filtering and erasing tags are undone one after the other, the filter last.
    calc
      _ = (f.constraints.filter ctx.activates).flatMap fun c =>
            (f.forGroup ctx.group).constraintEntries ctx.ungrouped read c.untagged := by
          rw [funext hActive]
          exact List.flatMap_map _ _ _
      _ = (f.constraints.filter ctx.activates).flatMap (f.constraintEntries ctx read) :=
          List.flatMap_congr fun c hc => constraintEntries_untagged ctx read f (List.mem_filter.mp hc).2
      _ = _ := flatMap_filter_of_nil _ fun c _ hc => constraintEntries_of_inactive ctx read f hc
  rw [expectedEntries, expectedEntries, hConstraints]
  rfl

theorem expectedEntries_ungrouped_sublist (model : String) :
    (f.expectedEntries validators ctx.ungrouped read model).Sublist
      (f.expectedEntries validators ctx read model) :=
  (List.Sublist.flatMap_right _ fun c _ => constraintEntries_ungrouped_sublist ctx read f c).append_right _

end FieldDeclaration

namespace ModelDeclaration

variable (validators : ValidatorSet) (ctx : Context) (read : String → Value) (d : ModelDeclaration)

theorem forGroup_reduces (group : Option String) : (d.forGroup group).Reduces d :=
  reduces_mapFields fun f _ => f.forGroup_reduces group

theorem expectedEntries_forGroup :
    (d.forGroup ctx.group).expectedEntries validators ctx.ungrouped read =
      d.expectedEntries validators ctx read := by
  rw [expectedEntries, forGroup, mapFields, List.flatMap_map]
  exact List.flatMap_congr fun f _ => f.expectedEntries_forGroup validators ctx read d.name

theorem expectedWarnings_forGroup :
    (d.forGroup ctx.group).expectedWarnings validators ctx.ungrouped read =
      d.expectedWarnings validators ctx read := by
  rw [expectedWarnings, forGroup, mapFields, List.flatMap_map]
  rfl

theorem expectedEntries_ungrouped_sublist :
    (d.expectedEntries validators ctx.ungrouped read).Sublist (d.expectedEntries validators ctx read) :=
  List.Sublist.flatMap_right _ fun f _ => f.expectedEntries_ungrouped_sublist validators ctx read d.name

theorem hookEntries_ungrouped (hHook : ∀ hook ∈ d.hook.bind validators.hook?, hook.IgnoresGroup)
    (r : RecordView) : d.hookEntries validators ctx.ungrouped r = d.hookEntries validators ctx r := by
  unfold hookEntries
  cases hFound : d.hook.bind validators.hook? with
  | none => rfl
  | some hook => exact hHook hook hFound r ctx none

end ModelDeclaration

/-- A validation found what another one found and maybe more, and left the same record. -/
structure Validated.Extends {ρ : Type} (v w : Validated ρ) : Prop where
  record_eq : v.record = w.record
  entries_sublist : w.outcome.entries.Sublist v.outcome.entries
  warnings_eq : v.warnings = w.warnings

namespace PreparedModel

variable {ρ : Type} [Record ρ]

/-- A run under a group is a run without one of what the declaration has for the group, and it extends the run
of the declaration without one. -/
theorem run_forGroup {d : ModelDeclaration} {validators : ValidatorSet} {m : PreparedModel}
    (h : prepare d validators = .ok m) (hHook : ∀ hook ∈ m.hook, hook.IgnoresGroup) (r : ρ) (ctx : Context) :
    (∃ m', prepare (d.forGroup ctx.group) validators = .ok m' ∧ m.run r ctx = m'.run r ctx.ungrouped) ∧
      (m.run r ctx).Extends (m.run r ctx.ungrouped) := by
  have hReduces := d.forGroup_reduces ctx.group
  obtain ⟨hAccepted, -, rfl⟩ := (prepare_eq_ok_iff d validators m).mp h
  have hSanitize : sanitize (Plan.ofDeclaration (d.forGroup ctx.group)) r = sanitize (Plan.ofDeclaration d) r :=
    sanitize_mapFields d (.forGroup ctx.group) (fun _ _ => rfl) r
  have hRestricted (view : RecordView) : (d.forGroup ctx.group).hookEntries validators ctx.ungrouped view =
      d.hookEntries validators ctx view := d.hookEntries_ungrouped validators ctx hHook view
  constructor
  · refine ⟨_, hReduces.prepare h, ?_⟩
    rw [run_eq_expected hAccepted, run_eq_expected (hReduces.isAccepted_of_reduces hAccepted), hSanitize]
    simp only [d.expectedEntries_forGroup, d.expectedWarnings_forGroup, hRestricted]
  · rw [run_eq_expected hAccepted, run_eq_expected hAccepted]
    refine { record_eq := rfl, entries_sublist := ?_, warnings_eq := rfl }
    simp only [d.hookEntries_ungrouped validators ctx hHook]
    exact (d.expectedEntries_ungrouped_sublist validators ctx _).append_right _

theorem run_forGroup_signup :
    prepare (Signup.declaration (some "finish")) Signup.validators =
      .ok (.ofDeclaration (Signup.declaration (some "finish")) Signup.validators) ∧
    (∀ hook ∈ (ofDeclaration (Signup.declaration (some "finish")) Signup.validators).hook,
      hook.IgnoresGroup) ∧
    (∃ m', prepare ((Signup.declaration (some "finish")).forGroup (some "late")) Signup.validators = .ok m' ∧
      (ofDeclaration (Signup.declaration (some "finish")) Signup.validators).run Signup.record Signup.context =
        m'.run Signup.record Signup.context.ungrouped) ∧
    ((ofDeclaration (Signup.declaration (some "finish")) Signup.validators).run Signup.record
      Signup.context).Extends
        ((ofDeclaration (Signup.declaration (some "finish")) Signup.validators).run Signup.record
          Signup.context.ungrouped) := by
  have hPrepared := Signup.prepare_declaration (.inr rfl)
  have hHook : ∀ hook ∈ (ofDeclaration (Signup.declaration (some "finish")) Signup.validators).hook,
      hook.IgnoresGroup := by
    rintro hook ⟨rfl⟩ view ctx group
    rfl
  exact ⟨hPrepared, hHook, run_forGroup hPrepared hHook Signup.record Signup.context⟩

end PreparedModel

/-- Without the group the number is not looked at. -/
example : ((PreparedModel.ofDeclaration (Signup.declaration (some "finish")) Signup.validators).run
    Signup.record Signup.context.ungrouped).outcome.entries =
    [⟨"nick", "root is not known.", .error⟩, ⟨"", "Signup", .info⟩] := by
  decide +kernel

end FieldRules
