import FieldRules.Plan.Document
import FieldRules.Proofs.Declaration.Stored
import FieldRules.Proofs.Plan.Steps

/-!
# Stored plans

A step names fields by positions of 64 bits. A plan within these positions whose rules have stored forms is
read back from its document as it was written, and so is the plan of every declaration of this kind.
-/
set_option autoImplicit false

namespace FieldRules

open Document (keys orNull unlessNone)

theorem Document.index?_int {n : Nat} (h : n < UInt64.size) : (Document.int n).index? = some n := by
  have hHolds : (IntKind.unsigned 64).holds n = true :=
    (IntKind.holds_iff (.unsigned 64) _).mpr ⟨Int.natCast_nonneg _, Int.le_sub_one_of_lt (Int.ofNat_lt.mpr h)⟩
  simp [Document.index?, Document.size?, Document.meaning, hHolds, UInt64.toNat_ofNat_of_lt' h]

theorem Document.resolvedEntries?_append {entries entries' : List (String × Document)}
    (h : resolvedEntries? entries = some entries) (h' : resolvedEntries? entries' = some entries') :
    resolvedEntries? (entries ++ entries') = some (entries ++ entries') := by
  induction entries with
  | nil => exact h'
  | cons e entries ih =>
    obtain ⟨key, d⟩ := e
    simp only [resolvedEntries?, Option.bind_eq_bind, Option.bind_eq_some_iff, Option.some.injEq,
      List.cons.injEq, Prod.mk.injEq, true_and] at h
    obtain ⟨_, hd, _, hRest, rfl, rfl⟩ := h
    simp only [List.cons_append, resolvedEntries?, hd, ih hRest, Option.bind_eq_bind, Option.bind_some]

theorem Directive.resolved?_toDocument (d : Directive) : d.toDocument.resolved? = some d.toDocument :=
  rfl

theorem Constraint.resolved?_toDocument (c : Constraint) : c.toDocument.resolved? = some c.toDocument := by
  have hOwn : Document.resolvedEntries? c.ownEntries = some c.ownEntries := by
    unfold ownEntries
    cases c.message with
    | none => cases c.group <;> rfl
    | some m => cases m <;> cases c.group <;> rfl
  rw [toDocument, Document.resolved?, members_eq,
    Document.resolvedEntries?_append c.rule.resolvedEntries?_members hOwn, Option.map_some]

theorem PlannedField.ofDocument?_toDocument (f : PlannedField) :
    PlannedField.ofDocument? .entry f.toDocument = some f := by
  have hMembers := Document.members?_map [("name", .text f.name), ("label", .text f.label),
    ("field_type", f.fieldType.toDocument), ("nullable", .bool f.nullable)] PlannedField.names (by simp [keys])
  simp [PlannedField.ofDocument?, PlannedField.toDocument, hMembers, Members.required, Document.text?,
    Document.bool?, Document.untagged, Document.meaning, FieldType.ofDocument?_toDocument]

theorem SanitizeStep.ofDocument?_toDocument {s : SanitizeStep} (h : s.field < UInt64.size) :
    SanitizeStep.ofDocument? s.toDocument = some s := by
  have hMembers := Document.members?_map [("field", .int s.field),
    ("directive", s.directive.toDocument)] SanitizeStep.names (by simp [keys])
  simp [SanitizeStep.ofDocument?, SanitizeStep.toDocument, hMembers, Members.required, Document.index?_int h,
    Directive.ofDocument?_toDocument]

namespace ValidateStep

structure IsStorable (s : ValidateStep) : Prop where
  field : s.field < UInt64.size
  rule : ∀ c ∈ s.constraint?, c.rule.IsStorable
  sibling : ∀ index c i, s = .constraint index c (some i) → i < UInt64.size

theorem ofDocument?_toDocument {s : ValidateStep} (h : s.IsStorable) :
    ofDocument? .entry s.toDocument = some s := by
  cases s with
  | constraint index c sibling =>
    have hField : (Document.int index).index? = some index := Document.index?_int h.field
    have hRule := Constraint.ofDocument?_toDocument (h.rule c rfl)
    have hSibling : Document.optional? Document.index? (orNull (fun (i : Nat) => .int i) sibling) =
        some sibling := by
      refine Document.optional?_orNull (fun _ _ => rfl) fun i hi => Document.index?_int ?_
      obtain rfl := hi
      exact h.sibling index c i rfl
    have hResolved : (toDocument (.constraint index c sibling)).resolved? =
        some (toDocument (.constraint index c sibling)) := by
      cases sibling <;>
        simp [toDocument, orNull, Document.resolved?, Document.resolvedEntries?, c.resolved?_toDocument]
    have hMembers := Document.members?_map [("step", .text "constraint"), ("field", .int index),
      ("constraint", c.toDocument), ("dependency", orNull (fun (i : Nat) => .int i) sibling)]
      ["step", "field", "constraint", "dependency", "validator"] (by simp [keys])
    rw [ofDocument?, hResolved, toDocument]
    simp [hMembers, Members.required, Members.optional, Members.orElse, Document.text?, Document.untagged,
      hField, hRule, hSibling]
  | custom index v =>
    have hField : (Document.int index).index? = some index := Document.index?_int h.field
    have hMembers := Document.members?_map [("step", .text "custom"), ("field", .int index),
      ("validator", v.toDocument)] ["step", "field", "constraint", "dependency", "validator"] (by simp [keys])
    have hResolved : (toDocument (.custom index v)).resolved? = some (toDocument (.custom index v)) := rfl
    rw [ofDocument?, hResolved, toDocument]
    simp [hMembers, Members.required, Document.text?, Document.untagged, hField, v.ofDocument?_toDocument]

end ValidateStep

namespace Plan

structure IsStorable (p : Plan) : Prop where
  sanitize : ∀ s ∈ p.sanitize, s.field < UInt64.size
  validate : ∀ s ∈ p.validate, s.IsStorable

theorem ofDocument?_toDocument {p : Plan} (h : p.IsStorable) : ofDocument? .entry p.toDocument = some p := by
  have hMembers := Document.members?_map [("model", .text p.model),
    ("fields", .list (p.fields.map PlannedField.toDocument)),
    ("sanitize", .list (p.sanitize.map SanitizeStep.toDocument)),
    ("validate", .list (p.validate.map ValidateStep.toDocument)), ("model_hook", orNull .text p.hook)]
    names (by simp [keys])
  have hFields := Document.items?_list fun f (_ : f ∈ p.fields) => f.ofDocument?_toDocument
  have hSanitize := Document.items?_list fun s hs => SanitizeStep.ofDocument?_toDocument (h.sanitize s hs)
  have hValidate := Document.items?_list fun s hs => ValidateStep.ofDocument?_toDocument (h.validate s hs)
  have hHook : Document.optional? Document.text? (orNull .text p.hook) = some p.hook :=
    Document.optional?_orNull (fun _ _ => rfl) fun _ _ => rfl
  simp [ofDocument?, toDocument, hMembers, Members.required, Members.optional, Members.orElse, Document.text?,
    Document.untagged, hFields, hSanitize, hValidate, hHook]

theorem field_lt_of_mem_sanitizeSteps {s : SanitizeStep} {index : Nat} {fields : List FieldDeclaration}
    (h : s ∈ sanitizeSteps index fields) : s.field < index + fields.length := by
  induction fields generalizing index with
  | nil => cases h
  | cons f rest ih =>
    obtain h | h := List.mem_append.mp h
    · obtain ⟨directive, -, rfl⟩ := Option.map_eq_some_iff.mp (Option.mem_toList.mp h)
      exact Nat.lt_add_of_pos_right (Nat.succ_pos _)
    · have := ih h
      rw [List.length_cons]
      omega

/-- The plan of a storable declaration is storable, as long as 64 bits count its fields. -/
theorem isStorable_ofDeclaration {d : ModelDeclaration} (h : d.IsStorable)
    (hCount : d.fields.length ≤ UInt64.size) : (ofDeclaration d).IsStorable where
  sanitize s hs := by
    have := field_lt_of_mem_sanitizeSteps hs
    omega
  validate s hs := by
    obtain ⟨f, index, hf, hs⟩ := (mem_validate_iff d s).mp hs
    have hIndex := (List.getElem?_eq_some_iff.mp hf).1
    obtain hs | hs := List.mem_append.mp hs
    · obtain ⟨c, hc, rfl⟩ := List.mem_map.mp hs
      refine ⟨Nat.lt_of_lt_of_le hIndex hCount, ?_, ?_⟩
      · intro c' hc'
        obtain rfl := Option.some.inj hc'
        exact h f (List.mem_of_getElem? hf) c hc
      · intro index' c' i hStep
        injection hStep with _ _ hSibling
        obtain ⟨other, -, hFind⟩ := Option.bind_eq_some_iff.mp hSibling
        obtain ⟨hLt, -⟩ := List.findIdx?_eq_some_iff_getElem.mp hFind
        exact Nat.lt_of_lt_of_le hLt hCount
    · obtain ⟨v, -, rfl⟩ := List.mem_map.mp hs
      refine ⟨Nat.lt_of_lt_of_le hIndex hCount, ?_, ?_⟩
      · intro c hc
        cases hc
      · intro index' c' i hStep
        cases hStep

end Plan
end FieldRules
