import FieldRules.Proofs.Derive.Instance
import FieldRules.Proofs.Prepared.Expected

/-!
# Dynamic copies of instances

A dynamic record that holds what an instance has at each declared name. Running a prepared model without a hook
keeps it a copy and finds the same in both.
-/
set_option autoImplicit false

namespace FieldRules

open Source

/-- At each declared name a record holds the value of an instance. -/
def DynamicRecord.Copies (r : DynamicRecord) (i : Derive.Instance) (d : ModelDeclaration) : Prop :=
  ∀ f ∈ d.fields, r.get? f.name = Record.fieldValue? i f.name

namespace Derive

open AnnotatedModel (ofItem)

variable {item : Item} {fields : List Field} {m : AnnotatedModel} {i : Instance}

theorem Instance.Fits.fieldValue?_eq (h : i.Fits m fields) (hModel : ofItem item = .ok m)
    {f : FieldDeclaration} (hf : f ∈ m.declaration.fields) :
    Record.fieldValue? i f.name = some (Record.read i f.name) := by
  obtain ⟨a, ha, rfl⟩ := List.mem_map.mp hf
  have hPlace := FieldTable.place?_of_mem hModel ha
  have hValue : Record.fieldValue? i a.name =
      (i.table.places.get? a.name).map fun place => FieldValue.toValue (i.field place) := rfl
  have hSome : Record.fieldValue? i a.name = some (FieldValue.toValue (i.field a.ident.spelling)) := by
    rw [hValue, h.table_eq, hPlace, Option.map_some]
  rw [Record.read, AnnotatedField.declaration, hSome, Option.getD_some]

/-- The dynamic record of the declared fields of an instance. -/
def Instance.copy (i : Instance) (d : ModelDeclaration) : DynamicRecord :=
  ⟨d.name, d.fields.map fun f => (f.name, Record.read i f.name)⟩

theorem Instance.Fits.copies_copy (h : i.Fits m fields) (hModel : ofItem item = .ok m) :
    (i.copy m.declaration).Copies i m.declaration := by
  have hNames : (i.copy m.declaration).fields.names.Nodup := by
    have hDeclared := ModelDeclaration.names_nodup (AnnotatedModel.declaration_isAccepted hModel)
    simpa [copy, Keyed.names, Function.comp_def] using hDeclared
  intro f hf
  rw [h.fieldValue?_eq hModel hf]
  exact Keyed.get?_of_mem hNames (List.mem_map.mpr ⟨f, hf, rfl⟩)

section Sanitized

variable (hBody : item.body = .named fields) (hModel : ofItem item = .ok m)
  (hTypes : m.HasBuiltInTypes fields) (hFits : i.Fits m fields)

include hBody hModel hTypes hFits

/-- Both kinds of record are sanitized alike, the one behind the types of its fields and the other by value. -/
theorem copies_sanitize {r : DynamicRecord} (hCopy : r.Copies i m.declaration) :
    (PreparedModel.sanitize (Plan.ofDeclaration m.declaration) r).Copies
      (PreparedModel.sanitize (Plan.ofDeclaration m.declaration) i) m.declaration := by
  obtain ⟨hKept, hRead⟩ := hFits.sanitize hBody hModel hTypes
  have hNames := ModelDeclaration.names_nodup (AnnotatedModel.declaration_isAccepted hModel)
  obtain ⟨-, hDynamic, -⟩ := r.actsAt_get?.view_foldl m.declaration.fields hNames r ⟨rfl, rfl⟩
  intro f hf
  calc
    (PreparedModel.sanitize (Plan.ofDeclaration m.declaration) r).get? f.name
        = (r.get? f.name).map f.clean := by
      rw [PreparedModel.sanitize_eq_foldl, hDynamic f hf, DynamicRecord.elim_map_sanitize]
    _ = some (f.clean (Record.read i f.name)) := by
      rw [hCopy f hf, hFits.fieldValue?_eq hModel hf, Option.map_some]
    _ = _ := by rw [hKept.fieldValue?_eq hModel hf, hRead f hf]

end Sanitized

/-- A validation of a dynamic record found what a validation of an instance found, and left each declared field
as that one did. -/
structure ValidatedAlike (d : ModelDeclaration) (dynamic : Validated DynamicRecord)
    (typed : Validated Instance) : Prop where
  outcome_eq : dynamic.outcome = typed.outcome
  warnings_eq : dynamic.warnings = typed.warnings
  copies : dynamic.record.Copies typed.record d
  fieldValue?_eq : ∀ f ∈ d.fields,
    Record.fieldValue? dynamic.record f.name = Record.fieldValue? typed.record f.name

theorem run_validatedAlike {validators : ValidatorSet} {p : PreparedModel} {r : DynamicRecord}
    (hBody : item.body = .named fields) (hModel : ofItem item = .ok m)
    (hTypes : m.HasBuiltInTypes fields) (hHook : m.hook = none)
    (hPrepared : PreparedModel.prepare m.declaration validators = .ok p) (hFits : i.Fits m fields)
    (hCopy : r.Copies i m.declaration) (ctx : Context) :
    ValidatedAlike m.declaration (p.run r ctx) (p.run i ctx) ∧
    ∀ s : Shape, s.isBuiltIn = true → ∀ (x : s.Carrier) (d : Directive),
      FieldValue.toValue (FieldValue.sanitize d x) = (FieldValue.toValue x).sanitize d := by
  obtain ⟨hAccepted, -, rfl⟩ := (PreparedModel.prepare_eq_ok_iff _ _ _).mp hPrepared
  obtain ⟨hKept, -⟩ := hFits.sanitize hBody hModel hTypes
  have hCopies := copies_sanitize hBody hModel hTypes hFits hCopy
  have hReads (f : FieldDeclaration) (hf : f ∈ m.declaration.fields) :
      Record.read (PreparedModel.sanitize (Plan.ofDeclaration m.declaration) r) f.name =
        Record.read (PreparedModel.sanitize (Plan.ofDeclaration m.declaration) i) f.name := by
    rw [DynamicRecord.read_eq, hCopies f hf, Record.read]
  have hNoHook (view : RecordView) : m.declaration.hookEntries validators ctx view = [] := by
    rw [ModelDeclaration.hookEntries, AnnotatedModel.declaration, hHook]
    rfl
  rw [PreparedModel.run_eq_expected hAccepted, PreparedModel.run_eq_expected hAccepted]
  refine ⟨⟨?_, ?_, hCopies, fun f hf => ?_⟩, fun s hBuiltIn x => s.sanitizesAsValue hBuiltIn x⟩
  · simp only [hNoHook, ModelDeclaration.expectedEntries_congr _ _ hAccepted hReads]
  · exact ModelDeclaration.expectedWarnings_congr _ _ hReads
  · rw [hKept.fieldValue?_eq hModel hf, ← hReads f hf]
    rfl

theorem run_validatedAlike_signup : ∃ m,
    (Signup.item []).body = .named Signup.fields ∧ ofItem (Signup.item []) = .ok m ∧
    m.HasBuiltInTypes Signup.fields ∧ m.hook = none ∧
    PreparedModel.prepare m.declaration Signup.validators =
      .ok (.ofDeclaration (Signup.declaration none) Signup.validators) ∧
    (Signup.start m).Fits m Signup.fields ∧
    ((Signup.start m).copy m.declaration).Copies (Signup.start m) m.declaration ∧
    ValidatedAlike m.declaration
      ((PreparedModel.ofDeclaration (Signup.declaration none) Signup.validators).run
        ((Signup.start m).copy m.declaration) Signup.context)
      ((PreparedModel.ofDeclaration (Signup.declaration none) Signup.validators).run
        (Signup.start m) Signup.context) := by
  obtain ⟨m, hModel, hIs⟩ : ∃ m, ofItem (Signup.item []) = .ok m ∧ Signup.IsModel m none :=
    Signup.exists_model (by decide +kernel)
  have hHook : m.hook = none := Option.map_eq_none_iff.mp (congrArg ModelDeclaration.hook hIs.declaration_eq)
  have hPrepared : PreparedModel.prepare m.declaration Signup.validators =
      .ok (.ofDeclaration (Signup.declaration none) Signup.validators) := by
    rw [hIs.declaration_eq]
    exact Signup.prepare_declaration (.inl rfl)
  have hFits := Signup.start_fits m
  have hCopy := hFits.copies_copy hModel
  exact ⟨m, rfl, hModel, hIs.hasBuiltInTypes, hHook, hPrepared, hFits, hCopy,
    (run_validatedAlike rfl hModel hIs.hasBuiltInTypes hHook hPrepared hFits hCopy Signup.context).1⟩

end Derive
end FieldRules
