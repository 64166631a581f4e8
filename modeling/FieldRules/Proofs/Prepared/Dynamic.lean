import FieldRules.Proofs.Prepared.Expected
import FieldRules.Proofs.Record.Sanitized

/-!
# Runs on dynamic records

What a run of a prepared model does to a dynamic record, told by the declaration alone: which values change,
and which entries are left in which order.
-/
set_option autoImplicit false

namespace FieldRules

/-- A validation of a record does what the declaration says. Every entry is judged on the values that the record
has at the end. -/
structure MeetsDeclaration (d : ModelDeclaration) (validators : ValidatorSet) (r : DynamicRecord)
    (ctx : Context) (result : Validated DynamicRecord) : Prop where
  name_eq : result.record.name = r.name
  order_eq : result.record.fields.names = r.fields.names
  declared : ∀ f ∈ d.fields, result.record.get? f.name = (r.get? f.name).map f.clean
  undeclared : ∀ name, name ∉ d.fields.map FieldDeclaration.name →
    result.record.get? name = r.get? name
  siblings : ∀ f ∈ d.fields, ∀ c ∈ f.constraints, ∀ other, c.rule.sibling? = some other →
    ∃ g ∈ d.fields, g.name = other
  resolves : d.Resolves validators
  entries_eq : result.outcome.entries =
    d.expectedEntries validators ctx (Record.read result.record) ++
      d.hookEntries validators ctx (Record.view result.record)
  warnings_eq : result.warnings = d.expectedWarnings validators ctx (Record.read result.record)

namespace PreparedModel

theorem run_meetsDeclaration {d : ModelDeclaration} {validators : ValidatorSet} {m : PreparedModel}
    (h : prepare d validators = .ok m) (r : DynamicRecord) (ctx : Context) :
    MeetsDeclaration d validators r ctx (m.run r ctx) := by
  obtain ⟨hAccepted, hResolves, rfl⟩ := (prepare_eq_ok_iff d validators m).mp h
  obtain ⟨⟨hName, hOrder⟩, hDeclared, hUndeclared⟩ := r.actsAt_get?.view_foldl d.fields
    (ModelDeclaration.names_nodup hAccepted) r ⟨rfl, rfl⟩
  rw [run_eq_expected hAccepted, sanitize_eq_foldl]
  exact
    { name_eq := hName
      order_eq := hOrder
      declared := fun f hf => (hDeclared f hf).trans (DynamicRecord.elim_map_sanitize f _)
      undeclared := hUndeclared
      siblings := fun f hf c hc other hOther => ModelDeclaration.sibling_declared hAccepted hf hc hOther
      resolves := hResolves
      entries_eq := rfl
      warnings_eq := rfl }

end PreparedModel

namespace Signup

/-- A text that is trimmed before anything is checked, and a number that is only checked next to one text. -/
def declaration (hook : Option String) : ModelDeclaration :=
  { name := "Signup"
    fields :=
      [{ name := "nick"
         fieldType := .string
         nullable := true
         constraints := [{ rule := .required }]
         sanitize := some { Directive.none with trim := true }
         validators := [{ name := "known" }] },
       { name := "age"
         fieldType := .int
         constraints :=
           [{ rule := .conditionalRange "nick" (.text "root") (.ofInt 1) (.ofInt 3)
              message := some (.resource "age.range")
              group := some "late" }] }]
    hook }

def known : CustomValidator :=
  ⟨fun v _ => .finished (.failure "" (v.display ++ " is not known."))⟩

def finish : Hook :=
  ⟨fun r _ => [{ field := "", message := r.modelName, severity := .info }]⟩

def validators : ValidatorSet :=
  { validators := [("known", known)]
    hooks := [("finish", finish)] }

def context : Context :=
  { group := some "late"
    catalog := some [("age.range", "At most \x7bmax\x7d.")]
    clock := some .epoch }

def record : DynamicRecord :=
  ⟨"Signup", [("age", .int 5), ("nick", .text " root ")]⟩

theorem prepare_declaration {hook : Option String} (hHook : hook = none ∨ hook = some "finish") :
    PreparedModel.prepare (declaration hook) validators =
      .ok (.ofDeclaration (declaration hook) validators) := by
  apply PreparedModel.prepare_of_checks
  · rcases hHook with rfl | rfl <;> decide +kernel
  · rcases hHook with rfl | rfl <;> decide +kernel

end Signup

theorem PreparedModel.run_meetsDeclaration_signup :
    PreparedModel.prepare (Signup.declaration (some "finish")) Signup.validators =
      .ok (.ofDeclaration (Signup.declaration (some "finish")) Signup.validators) ∧
    MeetsDeclaration (Signup.declaration (some "finish")) Signup.validators
      ⟨"Signup", [("age", .int 5), ("nick", .text " root ")]⟩ Signup.context
      ((PreparedModel.ofDeclaration (Signup.declaration (some "finish")) Signup.validators).run
        ⟨"Signup", [("age", .int 5), ("nick", .text " root ")]⟩ Signup.context) :=
  ⟨Signup.prepare_declaration (.inr rfl),
    PreparedModel.run_meetsDeclaration (Signup.prepare_declaration (.inr rfl)) _ _⟩

/-- The number is judged next to the trimmed text, though it stands first in the record. -/
example : ((PreparedModel.ofDeclaration (Signup.declaration (some "finish")) Signup.validators).run
    (⟨"Signup", [("age", .int 5), ("nick", .text " root ")]⟩ : DynamicRecord) Signup.context).outcome.entries =
    [⟨"nick", "root is not known.", .error⟩, ⟨"age", "At most 3.", .error⟩, ⟨"", "Signup", .info⟩] := by
  decide +kernel

end FieldRules
