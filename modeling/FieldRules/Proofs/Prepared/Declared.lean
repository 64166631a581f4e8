import FieldRules.Proofs.Prepared.Dynamic

/-!
# Declared fields

A prepared model without a hook looks at the declared fields of a dynamic record and at nothing else, and it does
not tell an absent field from one that is null. Fields that are not declared stay as they are.
-/
set_option autoImplicit false

namespace FieldRules

theorem FieldDeclaration.clean_null (f : FieldDeclaration) : f.clean .null = .null := by
  unfold clean
  cases f.sanitize <;> rfl

namespace DynamicRecord

def undeclared (r : DynamicRecord) (d : ModelDeclaration) : Keyed Value :=
  r.fields.filter fun e => e.1 ∉ d.fields.map FieldDeclaration.name

variable {d : ModelDeclaration}

theorem undeclared_applyTo {f : FieldDeclaration} (hf : f ∈ d.fields) (r : DynamicRecord) :
    (f.applyTo r).undeclared d = r.undeclared d := by
  have hDeclared : decide (f.name ∉ d.fields.map FieldDeclaration.name) = false :=
    decide_eq_false (not_not_intro (List.mem_map.mpr ⟨f, hf, rfl⟩))
  unfold FieldDeclaration.applyTo
  cases f.directive? with
  | none => rfl
  | some directive =>
    simp only [sanitized_eq]
    cases r.get? f.name with
    | none => rfl
    | some v =>
      exact Keyed.filter_insert r.fields (fun name => name ∉ d.fields.map FieldDeclaration.name) hDeclared
        (v.sanitize directive)

theorem undeclared_foldl (fields : List FieldDeclaration) (hFields : ∀ f ∈ fields, f ∈ d.fields)
    (r : DynamicRecord) : (fields.foldl (fun r f => f.applyTo r) r).undeclared d = r.undeclared d := by
  induction fields generalizing r with
  | nil => rfl
  | cons f rest ih =>
    rw [List.foldl_cons, ih (fun g hg => hFields g (List.mem_cons_of_mem f hg)),
      undeclared_applyTo (hFields f List.mem_cons_self)]

/-- A field that is not there reads as null before and after. -/
theorem read_sanitize {f : FieldDeclaration} (hf : f ∈ d.fields)
    (hNodup : (d.fields.map FieldDeclaration.name).Nodup) (r : DynamicRecord) :
    Record.read (PreparedModel.sanitize (Plan.ofDeclaration d) r) f.name = f.clean (Record.read r f.name) := by
  obtain ⟨-, hDeclared, -⟩ := r.actsAt_get?.view_foldl d.fields hNodup r ⟨rfl, rfl⟩
  rw [PreparedModel.sanitize_eq_foldl, read_eq, read_eq, hDeclared f hf, elim_map_sanitize]
  cases r.get? f.name with
  | none => exact f.clean_null.symm
  | some v => rfl

end DynamicRecord

/-- No field was added or removed, and those that are not declared hold what they held. -/
structure KeepsUndeclared (d : ModelDeclaration) (before after : DynamicRecord) : Prop where
  names_eq : after.fields.names = before.fields.names
  undeclared_eq : after.undeclared d = before.undeclared d

theorem keepsUndeclared_sanitize {d : ModelDeclaration} (hNodup : (d.fields.map FieldDeclaration.name).Nodup)
    (r : DynamicRecord) : KeepsUndeclared d r (PreparedModel.sanitize (Plan.ofDeclaration d) r) := by
  obtain ⟨⟨-, hNames⟩, -⟩ := r.actsAt_get?.view_foldl d.fields hNodup r ⟨rfl, rfl⟩
  rw [PreparedModel.sanitize_eq_foldl]
  exact ⟨hNames, DynamicRecord.undeclared_foldl d.fields (fun _ hf => hf) r⟩

/-- Validations of two records that differ, if at all, in fields that nobody declared. -/
structure DeclaredAlike (d : ModelDeclaration) (r s : DynamicRecord) (ofR ofS : Validated DynamicRecord) :
    Prop where
  outcome_eq : ofR.outcome = ofS.outcome
  warnings_eq : ofR.warnings = ofS.warnings
  reads_eq : ∀ f ∈ d.fields, Record.read ofR.record f.name = Record.read ofS.record f.name
  left : KeepsUndeclared d r ofR.record
  right : KeepsUndeclared d s ofS.record

namespace PreparedModel

/-- Records that read the same at every declared name are validated alike. -/
theorem run_declaredAlike {d : ModelDeclaration} {validators : ValidatorSet} {m : PreparedModel}
    (h : prepare d validators = .ok m) (hHook : d.hook = none) {r s : DynamicRecord}
    (hReads : ∀ f ∈ d.fields, Record.read r f.name = Record.read s f.name) (ctx : Context) :
    DeclaredAlike d r s (m.run r ctx) (m.run s ctx) := by
  obtain ⟨hAccepted, -, rfl⟩ := (prepare_eq_ok_iff d validators m).mp h
  have hNodup := ModelDeclaration.names_nodup hAccepted
  have hCleaned : ∀ f ∈ d.fields, Record.read (sanitize (Plan.ofDeclaration d) r) f.name =
      Record.read (sanitize (Plan.ofDeclaration d) s) f.name := by
    intro f hf
    rw [DynamicRecord.read_sanitize hf hNodup, DynamicRecord.read_sanitize hf hNodup, hReads f hf]
  have hNoHook (view : RecordView) : d.hookEntries validators ctx view = [] := by
    rw [ModelDeclaration.hookEntries, hHook]
    rfl
  rw [run_eq_expected hAccepted, run_eq_expected hAccepted]
  refine
    { outcome_eq := ?_
      warnings_eq := ModelDeclaration.expectedWarnings_congr validators ctx hCleaned
      reads_eq := hCleaned
      left := keepsUndeclared_sanitize hNodup r
      right := keepsUndeclared_sanitize hNodup s }
  simp only [hNoHook, ModelDeclaration.expectedEntries_congr validators ctx hAccepted hCleaned]

/-- A record without the text, and one of another name that has it as null behind a field of its own. -/
theorem run_declaredAlike_signup :
    prepare (Signup.declaration none) Signup.validators =
      .ok (.ofDeclaration (Signup.declaration none) Signup.validators) ∧
    (Signup.declaration none).hook = none ∧
    (∀ f ∈ (Signup.declaration none).fields,
      Record.read (⟨"Signup", [("age", .int 5)]⟩ : DynamicRecord) f.name =
        Record.read (⟨"Other", [("note", .text " n "), ("nick", .null), ("age", .int 5)]⟩ : DynamicRecord)
          f.name) ∧
    DeclaredAlike (Signup.declaration none) ⟨"Signup", [("age", .int 5)]⟩
      ⟨"Other", [("note", .text " n "), ("nick", .null), ("age", .int 5)]⟩
      ((ofDeclaration (Signup.declaration none) Signup.validators).run ⟨"Signup", [("age", .int 5)]⟩
        Signup.context)
      ((ofDeclaration (Signup.declaration none) Signup.validators).run
        ⟨"Other", [("note", .text " n "), ("nick", .null), ("age", .int 5)]⟩ Signup.context) := by
  have hPrepared := Signup.prepare_declaration (.inl rfl)
  have hReads : ∀ f ∈ (Signup.declaration none).fields,
      Record.read (⟨"Signup", [("age", .int 5)]⟩ : DynamicRecord) f.name =
        Record.read (⟨"Other", [("note", .text " n "), ("nick", .null), ("age", .int 5)]⟩ : DynamicRecord)
          f.name := by decide +kernel
  exact ⟨hPrepared, rfl, hReads, run_declaredAlike hPrepared rfl hReads Signup.context⟩

end PreparedModel
end FieldRules
