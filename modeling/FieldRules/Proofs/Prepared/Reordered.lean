import FieldRules.Proofs.Declaration.Reduced
import FieldRules.Proofs.Prepared.Dynamic
import Mathlib.Data.List.Nodup
import Mathlib.Data.List.Perm.Basic

/-!
# Declarations in another order

What a declaration with its fields in another order does to a dynamic record. The record is sanitized to the
same one, and each field leaves the same entries, in the same order among themselves; only the order in which
the fields come differs.
-/
set_option autoImplicit false

namespace FieldRules

namespace DynamicRecord

theorem sanitized_comm {name other : String} (hNe : name ≠ other) (d e : Directive) (r : DynamicRecord) :
    Record.sanitized (Record.sanitized r name d) other e =
      Record.sanitized (Record.sanitized r other e) name d := by
  simp only [sanitized_eq]
  cases hName : r.get? name with
  | none =>
    cases hOther : r.get? other with
    | none => simp [hName, hOther]
    | some w => simp [hName, hOther, get?_set, hNe.symm]
  | some v =>
    cases hOther : r.get? other with
    | none => simp [hName, hOther, get?_set, hNe]
    | some w =>
      have hComm : (r.set name (v.sanitize d)).set other (w.sanitize e) =
          (r.set other (w.sanitize e)).set name (v.sanitize d) :=
        congrArg (mk r.name) (Keyed.insert_comm_of_get? hNe hName hOther _ _)
      simp [hName, hOther, get?_set, hNe, hNe.symm, hComm]

theorem applyTo_comm {f g : FieldDeclaration} (hNe : f.name ≠ g.name) (r : DynamicRecord) :
    g.applyTo (f.applyTo r) = f.applyTo (g.applyTo r) := by
  unfold FieldDeclaration.applyTo
  cases f.directive? with
  | none => rfl
  | some d =>
    cases g.directive? with
    | none => rfl
    | some e => exact sanitized_comm hNe d e r

end DynamicRecord

/-- A permutation that only moves blocks past blocks with which they commute changes nothing. -/
theorem flatMap_eq_of_perm {α β : Type} {items items' : List α} (hPerm : items.Perm items') {f : α → List β}
    (hComm : ∀ a ∈ items, ∀ b ∈ items, f a ++ f b = f b ++ f a) : items.flatMap f = items'.flatMap f := by
  rw [List.flatMap_eq_foldl, List.flatMap_eq_foldl]
  refine hPerm.foldl_eq' (fun a ha b hb before => ?_) []
  rw [List.append_assoc, List.append_assoc, hComm a ha b hb]

/-- Validations of one record with the fields of a declaration as they are and in another order. -/
structure ReorderedAlike (d : ModelDeclaration) (fields : List FieldDeclaration) (validators : ValidatorSet)
    (ctx : Context) (result reordered : Validated DynamicRecord) : Prop where
  record_eq : reordered.record = result.record
  entries_perm : reordered.outcome.entries.Perm result.outcome.entries
  entries_eq : result.outcome.entries =
    d.fields.flatMap (FieldDeclaration.expectedEntries validators ctx (Record.read result.record) d.name) ++
      d.hookEntries validators ctx (Record.view result.record)
  /-- The blocks of the fields are the same ones. -/
  reordered_eq : reordered.outcome.entries =
    fields.flatMap (FieldDeclaration.expectedEntries validators ctx (Record.read result.record) d.name) ++
      d.hookEntries validators ctx (Record.view result.record)
  /-- Where no other field leaves entries under the name of a field, the entries of that name are the same. -/
  entriesFor_eq : ∀ name,
    (∀ f ∈ d.fields, ∀ e ∈ f.expectedEntries validators ctx (Record.read result.record) d.name,
      e.field = name → f.name = name) →
    reordered.outcome.entriesFor name = result.outcome.entriesFor name
  warnings_perm : reordered.warnings.Perm result.warnings

namespace PreparedModel

section Permuted

variable {d : ModelDeclaration} {fields : List FieldDeclaration} (hPerm : fields.Perm d.fields)

include hPerm

theorem sanitize_perm (hNodup : (d.fields.map FieldDeclaration.name).Nodup) (r : DynamicRecord) :
    sanitize (Plan.ofDeclaration { d with fields }) r = sanitize (Plan.ofDeclaration d) r := by
  rw [sanitize_eq_foldl, sanitize_eq_foldl]
  refine hPerm.foldl_eq' (fun f hf g hg r => ?_) r
  by_cases hName : f.name = g.name
  · rw [List.inj_on_of_nodup_map hNodup (hPerm.mem_iff.mp hf) (hPerm.mem_iff.mp hg) hName]
  · exact DynamicRecord.applyTo_comm hName r

/-- Of the blocks of the fields only one has entries of the name, so there is nothing for it to pass. -/
theorem filter_flatMap_perm (hNodup : (d.fields.map FieldDeclaration.name).Nodup)
    {block : FieldDeclaration → List Entry} {name : String}
    (hAlone : ∀ f ∈ d.fields, ∀ e ∈ block f, e.field = name → f.name = name) :
    (fields.flatMap block).filter (fun e => e.field == name) =
      (d.fields.flatMap block).filter fun e => e.field == name := by
  have hNone (f : FieldDeclaration) (hf : f ∈ fields) (hName : f.name ≠ name) :
      (block f).filter (fun e => e.field == name) = [] := by
    refine List.filter_eq_nil_iff.mpr fun e he => ?_
    rw [beq_iff_eq]
    exact fun hField => hName (hAlone f (hPerm.mem_iff.mp hf) e he hField)
  rw [List.filter_flatMap, List.filter_flatMap]
  refine flatMap_eq_of_perm hPerm fun f hf g hg => ?_
  by_cases hFirst : f.name = name
  · by_cases hSecond : g.name = name
    · rw [List.inj_on_of_nodup_map hNodup (hPerm.mem_iff.mp hf) (hPerm.mem_iff.mp hg)
        (hFirst.trans hSecond.symm)]
    · rw [hNone g hg hSecond, List.append_nil, List.nil_append]
  · rw [hNone f hf hFirst, List.append_nil, List.nil_append]

/-- The order of the fields of a declaration decides on nothing but the order of what they leave. -/
theorem run_reordered {validators : ValidatorSet} {m : PreparedModel} (h : prepare d validators = .ok m) :
    ∃ m', prepare { d with fields } validators = .ok m' ∧
      ∀ (r : DynamicRecord) (ctx : Context),
        ReorderedAlike d fields validators ctx (m.run r ctx) (m'.run r ctx) := by
  have hReduces := ModelDeclaration.reduces_of_perm hPerm
  obtain ⟨hAccepted, -, rfl⟩ := (prepare_eq_ok_iff d validators m).mp h
  have hNodup := ModelDeclaration.names_nodup hAccepted
  refine ⟨_, hReduces.prepare h, fun r ctx => ?_⟩
  -- Constraints see the record that all fields left, so both runs judge every field by the same values.
  rw [run_eq_expected hAccepted, run_eq_expected (hReduces.isAccepted_of_reduces hAccepted),
    sanitize_perm hPerm hNodup]
  refine
    { record_eq := rfl
      entries_perm := (hPerm.flatMap_right _).append_right _
      entries_eq := rfl
      reordered_eq := rfl
      entriesFor_eq := fun name hAlone => ?_
      warnings_perm := hPerm.flatMap_right _ }
  have hFields := filter_flatMap_perm hPerm hNodup hAlone
  simp only [Outcome.entriesFor, ModelDeclaration.expectedEntries, List.filter_append, hFields]
  rfl

end Permuted

end PreparedModel

namespace Signup

/-- The number, which depends on the text, is declared before it. -/
def reversed : ModelDeclaration :=
  { declaration (some "finish") with fields := (declaration (some "finish")).fields.reverse }

end Signup

namespace PreparedModel

theorem run_reordered_signup :
    Signup.reversed.fields.Perm (Signup.declaration (some "finish")).fields ∧
    prepare (Signup.declaration (some "finish")) Signup.validators =
      .ok (.ofDeclaration (Signup.declaration (some "finish")) Signup.validators) ∧
    ∃ m', prepare Signup.reversed Signup.validators = .ok m' ∧
      ReorderedAlike (Signup.declaration (some "finish")) Signup.reversed.fields Signup.validators Signup.context
        ((ofDeclaration (Signup.declaration (some "finish")) Signup.validators).run Signup.record Signup.context)
        (m'.run Signup.record Signup.context) := by
  have hPerm : Signup.reversed.fields.Perm (Signup.declaration (some "finish")).fields := List.reverse_perm _
  have hPrepared := Signup.prepare_declaration (.inr rfl)
  obtain ⟨m', hReversed, hAlike⟩ := run_reordered hPerm hPrepared
  exact ⟨hPerm, hPrepared, m', hReversed, hAlike Signup.record Signup.context⟩

end PreparedModel

/-- The number comes first and is still judged next to the trimmed text. -/
example : ((PreparedModel.ofDeclaration Signup.reversed Signup.validators).run
    Signup.record Signup.context).outcome.entries =
    [⟨"age", "At most 3.", .error⟩, ⟨"nick", "root is not known.", .error⟩, ⟨"", "Signup", .info⟩] := by
  decide +kernel

end FieldRules
