import FieldRules.Derive.Routine
import FieldRules.Proofs.Derive.Instance
import FieldRules.Proofs.Prepared.Expected
import FieldRules.Proofs.Rule.Views

/-!
# Statements of routines

A statement does on an instance what the step it was made for does on the same instance seen as a record. The
statements of validate steps leave the instance as it is and add what the step adds.
-/
set_option autoImplicit false

namespace FieldRules.Derive

open Source

namespace AnnotatedModel

variable {m : AnnotatedModel} {index : Nat}

theorem declaration_getElem? (m : AnnotatedModel) (index : Nat) :
    m.declaration.fields[index]? = m.fields[index]?.map AnnotatedField.declaration := by
  simp [declaration]

theorem exists_of_declaration_getElem? {f : FieldDeclaration} (hf : m.declaration.fields[index]? = some f) :
    ∃ a, m.fields[index]? = some a ∧ a.declaration = f := by
  rw [declaration_getElem?] at hf
  exact Option.map_eq_some_iff.mp hf

theorem exists_function? {a : AnnotatedField} (ha : m.fields[index]? = some a) (hParallel : a.IsParallel)
    {position : Nat} {w : ValidatorRef} (hw : a.validators[position]? = some w) :
    ∃ path, a.paths[position]? = some path ∧ m.function? index position = some path := by
  obtain ⟨hLt, -⟩ := List.getElem?_eq_some_iff.mp hw
  rw [← hParallel.paths] at hLt
  refine ⟨a.paths[position], List.getElem?_eq_getElem hLt, ?_⟩
  rw [function?, ha, Option.bind_some, List.getElem?_eq_getElem hLt]

end AnnotatedModel

/-- Each function that a routine calls does on typed values what its namesake does on their dynamic values; a
name has a function for each field that refers to it. -/
structure Functions.AgreeWith (functions : Functions) (validators : ValidatorSet) (m : AnnotatedModel)
    (fields : List Field) : Prop where
  validator : ∀ f ∈ fields, ∀ a ∈ m.fields, a.ident = f.ident → ∀ (k : Nat) w path,
    a.validators[k]? = some w → a.paths[k]? = some path →
    ∃ custom, validators.validator? w.name = some custom ∧
      ∀ t : Typed, shapeOf? f.type = some t.shape → ∀ services,
        functions.validator path t services = custom.run (FieldValue.toValue t) services
  hook : ∀ path, m.hook = some path →
    ∃ hook, validators.hook? path.spelling = some hook ∧
      ∀ (i : Instance) (ctx : Context), i.Fits m fields →
        functions.hook path i ctx = hook.run (Record.view i) ctx

theorem Functions.AgreeWith.resolves {functions : Functions} {validators : ValidatorSet} {item : Item}
    {m : AnnotatedModel} {fields : List Field} (hBody : item.body = .named fields)
    (hModel : AnnotatedModel.ofItem item = .ok m) (h : functions.AgreeWith validators m fields) :
    m.declaration.Resolves validators where
  validator f hf w hw := by
    obtain ⟨index, hIndex⟩ := List.mem_iff_getElem?.mp hf
    obtain ⟨a, ha, rfl⟩ := AnnotatedModel.exists_of_declaration_getElem? hIndex
    obtain ⟨k, hk⟩ := List.mem_iff_getElem?.mp hw
    have hField := List.mem_of_getElem? ha
    obtain ⟨path, hPath, -⟩ := AnnotatedModel.exists_function? ha (AnnotatedModel.isParallel hModel hField) hk
    obtain ⟨g, hg, hIdent, -⟩ := AnnotatedModel.exists_field hBody hModel hField
    obtain ⟨custom, hCustom, -⟩ := h.validator g hg a hField hIdent.symm k w path hk hPath
    exact ⟨custom, hCustom⟩
  hook name hName := by
    obtain ⟨path, hPath, rfl⟩ := Option.map_eq_some_iff.mp hName
    obtain ⟨hook, hHook, -⟩ := h.hook path hPath
    exact ⟨hook, hHook⟩

theorem MessageExpr.text_ofConstraint (c : Constraint) (label : String) (catalog : Option Catalog) :
    (MessageExpr.ofConstraint c label).text catalog = c.failureMessage label catalog := by
  rw [ofConstraint, Constraint.failureMessage]
  cases c.message with
  | none => rfl
  | some source => cases source <;> rfl

/-- The result with more entries and warnings behind those it has. -/
def adding {ρ : Type} (v : Validated ρ) (more : List Entry × List String) : Validated ρ :=
  { v with outcome := v.outcome.extend more.1, warnings := v.warnings ++ more.2 }

namespace Routine

theorem customCount_reverse (index : Nat) (earlier : List ValidateStep) :
    customCount index earlier.reverse = (Plan.validatorsAt index earlier).length := by
  rw [customCount, List.filter_reverse, List.length_reverse]
  induction earlier with
  | nil => rfl
  | cons s rest ih =>
    cases s with
    | constraint => simp [ih]
    | custom field w => by_cases hField : field = index <;> simp [hField, ih]

variable {m : AnnotatedModel} {a : AnnotatedField} {index : Nat}

def checkOf (m : AnnotatedModel) (a : AnnotatedField) (c : Constraint) : Check :=
  { place := a.ident.spelling
    rule := c.rule
    sibling := (c.rule.sibling?.bind m.declaration.fieldIndex?).bind m.place?
    group := c.group
    field := a.name
    message := .ofConstraint c a.declaration.label
    severity := c.severity }

theorem validateStatement?_constraint (ha : m.fields[index]? = some a) (earlier : List ValidateStep)
    (c : Constraint) :
    validateStatement? m (.ofDeclaration m.declaration) earlier
        (.constraint index c (c.rule.sibling?.bind m.declaration.fieldIndex?)) =
      some (.check (checkOf m a c)) := by
  simp only [validateStatement?, ValidateStep.field_constraint, AnnotatedModel.place?, ha, Option.map_some,
    Plan.fields_getElem?, AnnotatedModel.declaration_getElem?]
  rfl

theorem validateStatement?_custom (ha : m.fields[index]? = some a) {earlier : List ValidateStep}
    (w : ValidatorRef) {path : Path} (hPath : m.function? index (customCount index earlier) = some path) :
    validateStatement? m (.ofDeclaration m.declaration) earlier (.custom index w) =
      some (.call a.ident.spelling path (a.declaration.site m.name w) w.isAsync) := by
  simp only [validateStatement?, ValidateStep.field_custom, AnnotatedModel.place?, ha, Option.map_some,
    Plan.fields_getElem?, AnnotatedModel.declaration_getElem?, hPath]
  rfl

section Run

variable {item : Item} {fields : List Field} (hBody : item.body = .named fields)
  (hModel : AnnotatedModel.ofItem item = .ok m) (hTypes : m.HasBuiltInTypes fields) {i : Instance}
  (hFits : i.Fits m fields)

include hModel hFits

theorem sanitizeStatements_run (functions : Functions) (ctx : Context) (steps : List SanitizeStep)
    (o : Outcome) (warnings : List String) :
    (steps.filterMap (sanitizeStatement? m)).foldl (Statement.run functions ctx) ⟨i, o, warnings⟩ =
      ⟨steps.foldl (PreparedModel.applyDirective (.ofDeclaration m.declaration)) i, o, warnings⟩ := by
  induction steps generalizing i with
  | nil => rfl
  | cons s rest ih =>
    rw [List.foldl_cons, PreparedModel.applyDirective, Plan.fields_getElem?,
      AnnotatedModel.declaration_getElem?]
    cases ha : m.fields[s.field]? with
    | none =>
      have hNone : sanitizeStatement? m s = none := by
        rw [sanitizeStatement?, AnnotatedModel.place?, ha]
        rfl
      rw [List.filterMap_cons_none hNone]
      exact ih hFits
    | some a =>
      have hSome : sanitizeStatement? m s = some (.sanitize a.ident.spelling s.directive) := by
        rw [sanitizeStatement?, AnnotatedModel.place?, ha]
        rfl
      have hAt : Record.sanitized i a.declaration.planned.name s.directive =
          i.sanitizeAt a.ident.spelling s.directive :=
        hFits.sanitized_eq hModel (List.mem_of_getElem? ha) s.directive
      simp only [List.filterMap_cons_some hSome, List.foldl_cons, Option.map_some, hAt]
      exact ih (hFits.sanitizeAt a.ident.spelling s.directive)

include hBody hTypes

theorem checkOf_holds (ha : a ∈ m.fields) {c : Constraint} (hc : c ∈ a.declaration.constraints)
    (now : Instant) :
    (checkOf m a c).holds i now =
      c.rule.passes now (c.rule.sibling?.map (Record.read i)) (Record.read i a.name) := by
  have hAccepted := AnnotatedModel.declaration_isAccepted hModel
  have hDeclared : a.declaration ∈ m.declaration.fields := List.mem_map.mpr ⟨a, ha, rfl⟩
  have hViews := Typed.viewsAgree (hFits.isBuiltIn_field hBody hModel hTypes ha)
  rw [hFits.read_eq hModel ha, Check.holds, checkOf]
  cases hSibling : c.rule.sibling? with
  | none => exact Rule.holds_eq_of_viewsAgree hViews now Value.null c.rule
  | some other =>
    obtain ⟨index, g, hIndex, hg, rfl⟩ := ModelDeclaration.fieldIndex?_of_declared
      (ModelDeclaration.sibling_declared hAccepted hDeclared hc hSibling)
    obtain ⟨b, hb, rfl⟩ := AnnotatedModel.exists_of_declaration_getElem? hg
    have hPlace : m.place? index = some b.ident.spelling := by rw [AnnotatedModel.place?, hb, Option.map_some]
    have hRead : Record.read i b.declaration.name = FieldValue.toValue (i.field b.ident.spelling) :=
      hFits.read_eq hModel (List.mem_of_getElem? hb)
    rw [Option.map_some, hRead]
    simp only [Option.bind_some, hIndex, hPlace]
    exact Rule.holds_eq_of_viewsAgree hViews now (i.field b.ident.spelling) c.rule

theorem checkOf_entries (ha : a ∈ m.fields) {c : Constraint} (hc : c ∈ a.declaration.constraints)
    (ctx : Context) :
    (checkOf m a c).entries i ctx = a.declaration.constraintEntries ctx (Record.read i) c := by
  have hHolds := checkOf_holds hBody hModel hTypes hFits ha hc ctx.now
  have hMessage := MessageExpr.text_ofConstraint c a.declaration.label ctx.catalog
  have hActive : (checkOf m a c).isActive ctx.group = ctx.activates c := rfl
  have hText : (checkOf m a c).message = .ofConstraint c a.declaration.label := rfl
  rw [Check.entries, hHolds, hActive, hText, hMessage]
  rfl

end Run

end Routine
end FieldRules.Derive
