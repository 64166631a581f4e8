import FieldRules.Proofs.Derive.Statements

/-!
# Routines and prepared models

The routine of an accepted structure does to an instance what the prepared model of its declaration does to the
instance seen as a record: sanitizing first, then one statement for each validate step, then the hook.
-/
set_option autoImplicit false

namespace FieldRules

namespace Derive

open Source

namespace Routine

variable {item : Item} {m : AnnotatedModel} {fields : List Field} {functions : Functions}
  {validators : ValidatorSet}

section Steps

variable (hBody : item.body = .named fields) (hModel : AnnotatedModel.ofItem item = .ok m)
  (hTypes : m.HasBuiltInTypes fields) (hAgree : functions.AgreeWith validators m fields)

include hBody hModel hAgree

theorem call_run {a : AnnotatedField} (ha : a ∈ m.fields) {k : Nat} {w : ValidatorRef} {path : Path}
    (hw : a.validators[k]? = some w) (hPath : a.paths[k]? = some path) {v : Validated Instance}
    (hRecord : v.record.Fits m fields) (isAsync : Bool) (ctx : Context) :
    Statement.run functions ctx v (.call a.ident.spelling path (a.declaration.site m.name w) isAsync) =
      adding v
        (a.declaration.validatorEntries validators ctx (Record.read v.record) m.name w,
          a.declaration.validatorWarnings validators ctx (Record.read v.record) m.name w) := by
  obtain ⟨f, hf, hIdent, hDeclares⟩ := AnnotatedModel.exists_field hBody hModel ha
  obtain ⟨custom, hCustom, hRuns⟩ := hAgree.validator f hf a ha hIdent.symm k w path hw hPath
  have hShape := hRecord.shape f hf hDeclares
  rw [hIdent] at hShape
  have hResult : a.declaration.validatorResult? validators ctx (Record.read v.record) w =
      some (functions.validator path (v.record.field a.ident.spelling) ctx.services) := by
    have hRead : Record.read v.record a.declaration.name =
        FieldValue.toValue (v.record.field a.ident.spelling) := hRecord.read_eq hModel ha
    rw [FieldDeclaration.validatorResult?, hCustom, Option.map_some, hRead, hRuns _ hShape]
  rw [FieldDeclaration.validatorEntries, FieldDeclaration.validatorWarnings, hResult, Option.elim_some,
    Option.elim_some]
  rfl

include hTypes

/-- The statement for a step, with the steps before it, adds what the step adds. -/
theorem validateStatement_run {earlier later : List ValidateStep} {s : ValidateStep}
    (hSteps : (Plan.ofDeclaration m.declaration).validate = earlier ++ s :: later)
    {v : Validated Instance} (hRecord : v.record.Fits m fields) (ctx : Context) :
    ∃ statement, validateStatement? m (.ofDeclaration m.declaration) earlier.reverse s = some statement ∧
      Statement.run functions ctx v statement =
        adding v (PreparedModel.stepOutput m.declaration validators v.record ctx s) := by
  have hAccepted := AnnotatedModel.declaration_isAccepted hModel
  have hMem : s ∈ (Plan.ofDeclaration m.declaration).validate := by
    rw [hSteps]
    exact List.mem_append_right earlier List.mem_cons_self
  obtain ⟨f, index, hf, hs⟩ := (Plan.mem_validate_iff m.declaration s).mp hMem
  obtain ⟨a, ha, rfl⟩ := AnnotatedModel.exists_of_declaration_getElem? hf
  have hField := List.mem_of_getElem? ha
  rcases List.mem_append.mp hs with hConstraint | hCustom
  · obtain ⟨c, hc, rfl⟩ := List.mem_map.mp hConstraint
    refine ⟨_, validateStatement?_constraint ha earlier.reverse c, ?_⟩
    rw [PreparedModel.stepOutput, PreparedModel.runStep_constraint hAccepted hf hc,
      ← checkOf_entries hBody hModel hTypes hRecord hField hc ctx, adding, List.append_nil]
    rfl
  · obtain ⟨w, -, rfl⟩ := List.mem_map.mp hCustom
    have hPosition := Plan.validator_at hf hSteps
    rw [← customCount_reverse] at hPosition
    obtain ⟨path, hPath, hFunction⟩ :=
      AnnotatedModel.exists_function? ha (AnnotatedModel.isParallel hModel hField) hPosition
    refine ⟨_, validateStatement?_custom ha w hFunction, ?_⟩
    rw [PreparedModel.stepOutput, PreparedModel.runStep_custom hf,
      call_run hBody hModel hAgree hField hPosition hPath hRecord]
    rfl

/-- By induction on the steps that are left. No statement of a step changes the record. -/
theorem validateStatements_run (ctx : Context) (later earlier : List ValidateStep)
    (hSteps : (Plan.ofDeclaration m.declaration).validate = earlier ++ later) {v : Validated Instance}
    (hRecord : v.record.Fits m fields) :
    (validateStatements m (.ofDeclaration m.declaration) earlier.reverse later).foldl
        (Statement.run functions ctx) v =
      adding v
        (later.flatMap fun s => (PreparedModel.stepOutput m.declaration validators v.record ctx s).1,
          later.flatMap fun s => (PreparedModel.stepOutput m.declaration validators v.record ctx s).2) := by
  induction later generalizing earlier v with
  | nil => simp [validateStatements, adding, Outcome.extend]
  | cons s rest ih =>
    obtain ⟨statement, hStatement, hRun⟩ :=
      validateStatement_run hBody hModel hTypes hAgree hSteps hRecord ctx
    have hNext : (Plan.ofDeclaration m.declaration).validate = (earlier ++ [s]) ++ rest := by
      rw [hSteps, List.append_assoc]
      rfl
    have hRest := ih (earlier ++ [s]) hNext
      (v := adding v (PreparedModel.stepOutput m.declaration validators v.record ctx s)) hRecord
    rw [List.reverse_append, List.reverse_singleton, List.singleton_append] at hRest
    rw [validateStatements, hStatement, Option.toList_some, List.singleton_append, List.foldl_cons, hRun, hRest,
      List.flatMap_cons, List.flatMap_cons]
    simp [adding, Outcome.extend]

omit hBody hModel hTypes in
theorem hookStatement_run {v : Validated Instance} (hRecord : v.record.Fits m fields) (ctx : Context) :
    (m.hook.map Statement.hook).toList.foldl (Statement.run functions ctx) v =
      adding v (m.declaration.hookEntries validators ctx (Record.view v.record), []) := by
  have hName : m.declaration.hook = m.hook.map Path.spelling := rfl
  rw [ModelDeclaration.hookEntries, hName]
  cases hPath : m.hook with
  | none => simp [adding, Outcome.extend]
  | some path =>
    obtain ⟨hook, hHook, hRuns⟩ := hAgree.hook path hPath
    rw [Option.map_some, Option.map_some, Option.bind_some, hHook, Option.elim_some,
      ← hRuns v.record ctx hRecord]
    simp [Statement.run, adding]

end Steps

theorem run_eq_prepared (hBody : item.body = .named fields) (hModel : AnnotatedModel.ofItem item = .ok m)
    (hTypes : m.HasBuiltInTypes fields) (hAgree : functions.AgreeWith validators m fields) {i : Instance}
    (hFits : i.Fits m fields) (ctx : Context) :
    ∃ p, PreparedModel.prepare m.declaration validators = .ok p ∧
      (ofModel m).run functions i ctx = p.run i ctx := by
  have hAccepted := AnnotatedModel.declaration_isAccepted hModel
  obtain ⟨hKept, -⟩ := hFits.sanitize hBody hModel hTypes
  have hSanitize := sanitizeStatements_run hModel hFits functions ctx
    (Plan.ofDeclaration m.declaration).sanitize .empty []
  rw [← PreparedModel.sanitize] at hSanitize
  have hValidate := validateStatements_run hBody hModel hTypes hAgree ctx
    (Plan.ofDeclaration m.declaration).validate [] rfl
    (v := ⟨PreparedModel.sanitize (.ofDeclaration m.declaration) i, .empty, []⟩) hKept
  rw [List.reverse_nil] at hValidate
  refine ⟨.ofDeclaration m.declaration validators, ?_, ?_⟩
  · exact (PreparedModel.prepare_eq_ok_iff _ _ _).mpr ⟨hAccepted, hAgree.resolves hBody hModel, rfl⟩
  · rw [run, ofModel, ofPlan, List.foldl_append, List.foldl_append, hSanitize, hValidate,
      hookStatement_run hAgree hKept, PreparedModel.run_ofDeclaration]
    simp [adding, Outcome.extend, Outcome.empty]

end Routine
end Derive

end FieldRules
