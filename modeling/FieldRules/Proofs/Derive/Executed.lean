import FieldRules.Proofs.Derive.Blocks
import FieldRules.Proofs.Derive.Execution
import FieldRules.Proofs.Derive.RecordCode

/-!
# Generated code and the interpreter

The code for a model is run as it is written. Its statements are those of the routine of the model, each of them
reads as a command that does the same, and the routine does what the interpreter does with the declaration.
-/
set_option autoImplicit false

namespace FieldRules
namespace Derive

open Source

theorem exists_commands {statements : List Statement} (h : ∀ s ∈ statements, s.ReadsBack) :
    ∃ commands, statements.mapM (fun s => Command.ofTrees? (Code.statement s)) = some commands ∧
      List.Forall₂ Command.Follows commands statements := by
  induction statements with
  | nil => exact ⟨[], rfl, .nil⟩
  | cons s rest ih =>
    obtain ⟨hFirst, hRest⟩ := List.forall_mem_cons.mp h
    obtain ⟨command, hCommand, hFollows⟩ := exists_command hFirst
    obtain ⟨commands, hCommands, hAll⟩ := ih hRest
    exact ⟨command :: commands, by simp [hCommand, hCommands], .cons hFollows hAll⟩

theorem Command.Follows.foldlM_run {commands : List Command} {statements : List Statement}
    (h : List.Forall₂ Follows commands statements) (callees : Callees) (ctx : Context) (v : Validated Instance) :
    commands.foldlM (Command.run callees ctx) v = some (statements.foldl (Statement.run callees.byPath ctx) v) := by
  induction h generalizing v with
  | nil => rfl
  | cons hFirst _ ih =>
    rw [List.foldlM_cons, hFirst.run callees ctx v]
    exact ih _

/-- The body of a validation is a block of commands that follow the statements of the routine. -/
theorem commands?_follow {r : Routine} (h : ∀ s ∈ r.statements, s.ReadsBack) :
    ∃ commands, commands? (Code.validateBody r) = some commands ∧
      List.Forall₂ Command.Follows commands r.statements := by
  rw [Code.commands?_validateBody]
  exact exists_commands h

theorem execute_validateBody {r : Routine} (h : ∀ s ∈ r.statements, s.ReadsBack) (callees : Callees) (i : Instance)
    (ctx : Context) : execute callees i ctx (Code.validateBody r) = some (r.run callees.byPath i ctx) := by
  obtain ⟨commands, hCommands, hFollow⟩ := commands?_follow h
  rw [execute, hCommands]
  exact Command.Follows.foldlM_run hFollow callees ctx _

section Model

variable {item : Item} {m : AnnotatedModel} (hModel : AnnotatedModel.ofItem item = .ok m)

include hModel

theorem readsBack_fieldStatements {a : AnnotatedField} (ha : a ∈ m.fields) :
    ∀ s ∈ Routine.fieldStatements m a, s.ReadsBack := by
  intro s hs
  rcases List.mem_append.mp hs with hCheck | hCall
  · obtain ⟨c, hc, rfl⟩ := List.mem_map.mp hCheck
    intro v hv
    have hDeclared : a.declaration ∈ m.declaration.fields := List.mem_map.mpr ⟨a, ha, rfl⟩
    exact (AnnotatedModel.isSpelled_targets hModel v
      ((m.declaration.mem_targets_iff v).mpr ⟨_, hDeclared, c, hc, hv⟩)).readsBack
  · obtain ⟨_, -, rfl⟩ := List.mem_map.mp hCall
    trivial

theorem readsBack_statements : ∀ s ∈ (Routine.ofModel m).statements, s.ReadsBack := by
  rw [Routine.statements_ofModel fun _ => AnnotatedModel.isParallel hModel]
  intro s hs
  rcases List.mem_append.mp hs with hs | hHook
  · rcases List.mem_append.mp hs with hSanitize | hBlock
    · obtain ⟨_, -, hStatement⟩ := List.mem_filterMap.mp hSanitize
      obtain ⟨_, -, rfl⟩ := Option.map_eq_some_iff.mp hStatement
      trivial
    · obtain ⟨a, ha, hs⟩ := List.mem_flatMap.mp hBlock
      exact readsBack_fieldStatements hModel ha s hs
  · obtain ⟨_, -, rfl⟩ := Option.map_eq_some_iff.mp (Option.mem_toList.mp hHook)
    trivial

end Model

/-- The code of an accepted structure, run from its trees, finds what the interpreter finds in the declaration, and
leaves the instance as the interpreter does. The interpreter sees the instance through the record in the code. -/
theorem execute_eq_prepared {item : Item} {fields : List Field} {m : AnnotatedModel} {validators : ValidatorSet}
    {callees : Callees} (hBody : item.body = .named fields) (hModel : AnnotatedModel.ofItem item = .ok m)
    (hTypes : m.HasBuiltInTypes fields) (hAgree : callees.byPath.AgreeWith validators m fields) {i : Instance}
    (hFits : i.Fits m fields) (ctx : Context) :
    ∃ plan prepared, Code.derived item = Code.validation m plan ++ Code.record m ∧
      (∀ j : Instance, j.table = .ofModel m → IsRecordOf j (Code.record m)) ∧
      PreparedModel.prepare m.declaration validators = .ok prepared ∧
      (bodyOf? "validate" (Code.validation m plan)).bind (execute callees i ctx) = some (prepared.run i ctx) := by
  obtain ⟨prepared, hPrepared, hRun⟩ := Routine.run_eq_prepared hBody hModel hTypes hAgree hFits ctx
  refine ⟨.ofDeclaration m.declaration, prepared, ?_, fun _ => Code.isRecordOf_record, hPrepared, ?_⟩
  · rw [Code.derived, hModel]
    rfl
  · rw [Code.bodyOf?_validate, Option.bind_some, ← hRun]
    exact execute_validateBody (readsBack_statements hModel) callees i ctx

end Derive

namespace Signup

open Derive

/-- The functions in code do on typed values what those by name do on their dynamic values. -/
def callees : Callees :=
  { validator := fun _ t services => known.run (FieldValue.toValue t) services
    hook := fun _ i ctx => finish.run (Record.view i) ctx }

theorem callees_agreeWith {m : AnnotatedModel} (h : IsModel m (some "finish")) :
    callees.byPath.AgreeWith validators m fields where
  validator f _ a ha _ k w path hw _ := by
    have hNames : ∀ f ∈ (declaration (some "finish")).fields, ∀ w ∈ f.validators, w.name = "known" := by
      decide
    have hDeclared : a.declaration ∈ (declaration (some "finish")).fields := by
      rw [← h.declaration_eq]
      exact List.mem_map.mpr ⟨a, ha, rfl⟩
    refine ⟨known, ?_, fun _ _ _ => rfl⟩
    rw [hNames a.declaration hDeclared w (List.mem_of_getElem? hw)]
    rfl
  hook path hPath := by
    have hName : m.hook.map Source.Path.spelling = some "finish" :=
      congrArg ModelDeclaration.hook h.declaration_eq
    rw [hPath] at hName
    refine ⟨finish, ?_, fun _ _ _ => rfl⟩
    rw [Option.some.inj hName]
    rfl

end Signup

namespace Derive

theorem execute_eq_prepared_signup : ∃ m,
    (Signup.item [Signup.rules (Signup.given "hook" (Source.word "finish"))]).body = .named Signup.fields ∧
    AnnotatedModel.ofItem (Signup.item [Signup.rules (Signup.given "hook" (Source.word "finish"))]) = .ok m ∧
    m.HasBuiltInTypes Signup.fields ∧ Signup.callees.byPath.AgreeWith Signup.validators m Signup.fields ∧
    (Signup.start m).Fits m Signup.fields ∧
    ∃ plan prepared, PreparedModel.prepare m.declaration Signup.validators = .ok prepared ∧
      (bodyOf? "validate" (Code.validation m plan)).bind (execute Signup.callees (Signup.start m) Signup.context) =
        some (prepared.run (Signup.start m) Signup.context) := by
  obtain ⟨m, hModel, hIs⟩ : ∃ m,
      AnnotatedModel.ofItem (Signup.item [Signup.rules (Signup.given "hook" (Source.word "finish"))]) = .ok m ∧
      Signup.IsModel m (some "finish") := Signup.exists_model (by decide +kernel)
  have hAgree := Signup.callees_agreeWith hIs
  have hFits := Signup.start_fits m
  obtain ⟨plan, prepared, -, -, hPrepared, hRun⟩ :=
    execute_eq_prepared rfl hModel hIs.hasBuiltInTypes hAgree hFits Signup.context
  exact ⟨m, rfl, hModel, hIs.hasBuiltInTypes, hAgree, hFits, plan, prepared, hPrepared, hRun⟩

end Derive
end FieldRules
