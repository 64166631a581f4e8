import FieldRules.Proofs.Derive.Statements
import FieldRules.Proofs.Plan.Closed

/-!
# Lookups of plans

Summaries, runs and routines look fields up by the indexes of a plan. Each of them has a strict form here, which
fails where an index leads nowhere and where a conditional rule comes without a sibling. On the plan of an
accepted declaration no strict form fails, and each gives what the form with defaults gives.
-/
set_option autoImplicit false

namespace FieldRules

/-- The lookup of the sibling of a rule. A conditional rule has to have one, and it has to be found. -/
def Rule.siblingWith? {α : Type} (look : Nat → Option α) (r : Rule) (sibling : Option Nat) :
    Option (Option α) :=
  match sibling with
  | some index => (look index).map some
  | none => if r.sibling?.isSome then none else some none

namespace Summary

def absorbStep? (fields : List FieldSummary) : ValidateStep → Option (List FieldSummary)
  | .constraint index c _ => fields[index]?.map fun s => fields.set index (s.absorbConstraint c)
  | .custom _ _ => some fields

def ofPlan? (p : Plan) : Option Summary := do
  return ⟨p.model, ← p.validate.foldlM absorbStep? (p.fields.map FieldSummary.ofPlanned)⟩

end Summary

namespace PreparedModel

variable {ρ : Type} [Record ρ]

def applyDirective? (p : Plan) (r : ρ) (s : SanitizeStep) : Option ρ := do
  return Record.sanitized r (← p.fields[s.field]?).name s.directive

def valueAt? (p : Plan) (r : ρ) (index : Nat) : Option Value := do
  return Record.read r (← p.fields[index]?).name

/-- A step with its position. Nothing is looked up for a constraint that takes no part. -/
def runStep? (m : PreparedModel) (r : ρ) (ctx : Context) : ValidateStep × Nat → Option (List Entry × List String)
  | (.constraint index c sibling, _) =>
    if ctx.activates c then do
      let f ← m.plan.fields[index]?
      let siblingValue ← c.rule.siblingWith? (valueAt? m.plan r) sibling
      if c.rule.passes ctx.now siblingValue (Record.read r f.name) then return ([], [])
      else return ([⟨f.name, c.failureMessage f.label ctx.catalog, c.severity⟩], [])
    else some ([], [])
  | (.custom index w, position) => do
    match (← m.slots[position]?) with
    | none => return ([], [])
    | some custom =>
      let f ← m.plan.fields[index]?
      let result := custom.run (Record.read r f.name) ctx.services
      return (result.entries (site m.plan f w) ctx.policy, result.warnings (site m.plan f w) ctx.policy)

def run? (m : PreparedModel) (r : ρ) (ctx : Context) : Option (Validated ρ) := do
  let r ← m.plan.sanitize.foldlM (applyDirective? m.plan) r
  let steps ← m.plan.validate.zipIdx.mapM (m.runStep? r ctx)
  return { record := r
           outcome := ⟨steps.flatMap Prod.fst ++ m.hookEntries r ctx⟩
           warnings := steps.flatMap Prod.snd }

end PreparedModel

namespace Derive.Routine

def stepStatement? (m : AnnotatedModel) (p : Plan) (earlier : List ValidateStep) :
    ValidateStep → Option Statement
  | .constraint index c sibling => do
    let _ ← c.rule.siblingWith? m.place? sibling
    validateStatement? m p earlier (.constraint index c sibling)
  | .custom index w => validateStatement? m p earlier (.custom index w)

def stepStatements? (m : AnnotatedModel) (p : Plan) (earlier : List ValidateStep) :
    List ValidateStep → Option (List Statement)
  | [] => some []
  | s :: rest => do
    let statement ← stepStatement? m p earlier s
    return statement :: (← stepStatements? m p (s :: earlier) rest)

def ofPlan? (m : AnnotatedModel) (p : Plan) : Option Routine := do
  let sanitizing ← p.sanitize.mapM (sanitizeStatement? m)
  let validating ← stepStatements? m p [] p.validate
  return ⟨sanitizing ++ validating ++ (m.hook.map .hook).toList⟩

end Derive.Routine

theorem mapM_eq_some_filterMap {α β : Type} {items : List α} {f : α → Option β}
    (h : ∀ a ∈ items, ∃ b, f a = some b) : items.mapM f = some (items.filterMap f) := by
  induction items with
  | nil => rfl
  | cons a rest ih =>
    obtain ⟨b, hb⟩ := h a List.mem_cons_self
    rw [List.mapM_cons, hb, ih fun a' ha => h a' (List.mem_cons_of_mem a ha), List.filterMap_cons_some hb]
    rfl

theorem foldlM_eq_some_foldl {α β : Type} {items : List α} {step? : β → α → Option β} {step : β → α → β}
    (P : β → Prop) (h : ∀ b, P b → ∀ a ∈ items, step? b a = some (step b a) ∧ P (step b a)) {b : β} (hb : P b) :
    items.foldlM step? b = some (items.foldl step b) := by
  induction items generalizing b with
  | nil => rfl
  | cons a rest ih =>
    obtain ⟨hStep, hNext⟩ := h b hb a List.mem_cons_self
    rw [List.foldlM_cons, hStep, List.foldl_cons]
    exact ih (fun b hb a ha => h b hb a (List.mem_cons_of_mem _ ha)) hNext

section Closed

variable {p : Plan} (h : p.IsClosed)

include h

theorem Plan.IsClosed.sanitize_field {s : SanitizeStep} (hs : s ∈ p.sanitize) :
    ∃ f, p.fields[s.field]? = some f :=
  ⟨_, List.getElem?_eq_getElem (h.sanitize_lt s hs)⟩

theorem Plan.IsClosed.validate_field {s : ValidateStep} (hs : s ∈ p.validate) :
    ∃ f, p.fields[s.field]? = some f :=
  ⟨_, List.getElem?_eq_getElem (h.validate_lt s hs)⟩

/-- A lookup that succeeds on every field of the plan finds the sibling of every step. -/
theorem Plan.IsClosed.siblingWith?_eq_some {α : Type} {look? : Nat → Option α} {look : Nat → α}
    (hLook : ∀ i < p.fields.length, look? i = some (look i)) {index : Nat} {c : Constraint}
    {sibling : Option Nat} (hs : .constraint index c sibling ∈ p.validate) :
    c.rule.siblingWith? look? sibling = some (sibling.map look) := by
  cases sibling with
  | some i => rw [Rule.siblingWith?, hLook i (h.sibling_lt index c i hs), Option.map_some, Option.map_some]
  | none =>
    cases hOther : c.rule.sibling? with
    | none => rw [Rule.siblingWith?, hOther]; rfl
    | some other =>
      obtain ⟨i, _, hNone, -⟩ := h.sibling index c none hs other hOther
      cases hNone

theorem Summary.ofPlan?_eq_some : ofPlan? p = some (ofPlan p) := by
  have hFold : p.validate.foldlM absorbStep? (p.fields.map FieldSummary.ofPlanned) =
      some (p.validate.foldl absorbStep (p.fields.map FieldSummary.ofPlanned)) := by
    refine foldlM_eq_some_foldl (fun fields => fields.length = p.fields.length) ?_ (List.length_map _)
    intro fields hLength s hs
    have hLt : s.field < fields.length := hLength ▸ h.validate_lt s hs
    cases s with
    | constraint index c sibling =>
      have hGet : fields[index]? = some fields[index] := List.getElem?_eq_getElem hLt
      refine ⟨?_, by rw [absorbStep, List.length_modify, hLength]⟩
      rw [absorbStep?, absorbStep, hGet, Option.map_some, List.modify_eq_set_getElem?, hGet]
      rfl
    | custom index w => exact ⟨rfl, hLength⟩
  rw [ofPlan?, hFold]
  rfl

namespace PreparedModel

variable {ρ : Type} [Record ρ]

omit h in
theorem valueAt?_eq_some (r : ρ) {i : Nat} (hi : i < p.fields.length) :
    valueAt? p r i = some (valueAt p r i) := by
  have hGet : p.fields[i]? = some p.fields[i] := List.getElem?_eq_getElem hi
  rw [valueAt?, valueAt, hGet]
  rfl

theorem sanitize?_eq_some (r : ρ) : p.sanitize.foldlM (applyDirective? p) r = some (sanitize p r) := by
  refine foldlM_eq_some_foldl (fun _ => True) (fun r _ s hs => ⟨?_, trivial⟩) trivial
  obtain ⟨f, hf⟩ := h.sanitize_field hs
  rw [applyDirective?, applyDirective, hf]
  rfl

theorem runStep?_eq_some {m : PreparedModel} (hPlan : m.plan = p) (r : ρ) (ctx : Context) {s : ValidateStep}
    (hs : s ∈ p.validate) {position : Nat} {slot : Option CustomValidator}
    (hSlot : m.slots[position]? = some slot) :
    m.runStep? r ctx (s, position) = some (runStep p r ctx (s, slot)) := by
  subst hPlan
  obtain ⟨f, hf⟩ := h.validate_field hs
  cases s with
  | constraint index c sibling =>
    have hSibling := h.siblingWith?_eq_some (fun i hi => valueAt?_eq_some r hi) hs
    have hField : m.plan.fields[index]? = some f := hf
    simp only [runStep?, runStep, hField, hSibling, constraintEntries, Option.bind_eq_bind, Option.bind_some]
    cases ctx.activates c with
    | false => rfl
    | true =>
      cases c.rule.passes ctx.now (sibling.map (valueAt m.plan r)) (Record.read r f.name) <;> simp
  | custom index w =>
    have hField : m.plan.fields[index]? = some f := hf
    simp only [runStep?, hSlot, Option.bind_eq_bind, Option.bind_some]
    cases slot with
    | none => rfl
    | some custom =>
      simp only [runStep, hField]
      rfl

theorem run?_eq_some {m : PreparedModel} (hPlan : m.plan = p) {validators : ValidatorSet}
    (hSlots : m.slots = p.validate.map (slot validators)) (r : ρ) (ctx : Context) :
    m.run? r ctx = some (m.run r ctx) := by
  subst hPlan
  have hSteps : m.plan.validate.zipIdx.mapM (m.runStep? (sanitize m.plan r) ctx) =
      some ((m.plan.validate.zip m.slots).map (runStep m.plan (sanitize m.plan r) ctx)) := by
    have hZip : m.plan.validate.zip m.slots =
        m.plan.validate.zipIdx.map fun e => (e.1, slot validators e.1) := by
      rw [hSlots]
      calc
        _ = m.plan.validate.map fun s => (s, slot validators s) := by
          simpa using List.zip_map' (l := m.plan.validate) (f := id) (g := slot validators)
        _ = (m.plan.validate.zipIdx.map Prod.fst).map fun s => (s, slot validators s) := by
          rw [List.zipIdx_map_fst]
        _ = _ := by rw [List.map_map]; rfl
    have hStep (e : ValidateStep × Nat) (he : e ∈ m.plan.validate.zipIdx) :
        m.runStep? (sanitize m.plan r) ctx e =
          some (runStep m.plan (sanitize m.plan r) ctx (e.1, slot validators e.1)) := by
      have hGet := List.mem_zipIdx_iff_getElem?.mp he
      refine runStep?_eq_some h rfl _ ctx (List.mem_of_getElem? hGet) ?_
      rw [hSlots, List.getElem?_map, hGet]
      rfl
    rw [mapM_eq_some_filterMap fun e he => ⟨_, hStep e he⟩,
      List.filterMap_eq_map_iff_forall_eq_some.mpr hStep, hZip, List.map_map]
    rfl
  rw [run?, sanitize?_eq_some h, Option.bind_eq_bind, Option.bind_some, hSteps]
  rfl

end PreparedModel

namespace Derive.Routine

variable {m : AnnotatedModel} (hFields : m.fields.length = p.fields.length)

include hFields

omit h in
theorem place?_eq_some {i : Nat} (hi : i < p.fields.length) :
    m.place? i = some ((m.place? i).getD "") := by
  rw [AnnotatedModel.place?, List.getElem?_eq_getElem (hFields ▸ hi)]
  rfl

theorem stepStatement?_eq_some (earlier : List ValidateStep) {s : ValidateStep} (hs : s ∈ p.validate) :
    ∃ statement, stepStatement? m p earlier s = some statement ∧
      validateStatement? m p earlier s = some statement := by
  obtain ⟨f, hf⟩ := h.validate_field hs
  have hPlace := place?_eq_some hFields (h.validate_lt s hs)
  obtain ⟨statement, hStatement⟩ : ∃ statement, validateStatement? m p earlier s = some statement := by
    rw [validateStatement?, hPlace, hf]
    cases s with
    | constraint => exact ⟨_, rfl⟩
    | custom index w => cases hFunction : m.function? index (customCount index earlier) <;> simp [hFunction]
  refine ⟨statement, ?_, hStatement⟩
  cases s with
  | constraint index c sibling =>
    rw [stepStatement?, h.siblingWith?_eq_some (fun i hi => place?_eq_some hFields hi) hs]
    exact hStatement
  | custom => exact hStatement

theorem stepStatements?_eq_some (steps earlier : List ValidateStep) (hSteps : ∀ s ∈ steps, s ∈ p.validate) :
    stepStatements? m p earlier steps = some (validateStatements m p earlier steps) := by
  induction steps generalizing earlier with
  | nil => rfl
  | cons s rest ih =>
    obtain ⟨statement, hStep, hValidate⟩ :=
      stepStatement?_eq_some h hFields earlier (hSteps s List.mem_cons_self)
    rw [stepStatements?, validateStatements, hStep, hValidate,
      ih (s :: earlier) fun t ht => hSteps t (List.mem_cons_of_mem s ht)]
    rfl

theorem ofPlan?_eq_some : ofPlan? m p = some (ofPlan m p) := by
  have hSanitize : p.sanitize.mapM (sanitizeStatement? m) =
      some (p.sanitize.filterMap (sanitizeStatement? m)) := by
    refine mapM_eq_some_filterMap fun s hs => ⟨.sanitize ((m.place? s.field).getD "") s.directive, ?_⟩
    rw [sanitizeStatement?, place?_eq_some hFields (h.sanitize_lt s hs)]
    rfl
  rw [ofPlan?, hSanitize, stepStatements?_eq_some h hFields p.validate [] fun _ hs => hs]
  rfl

end Derive.Routine

end Closed

/-- No lookup by an index of the plan of a declaration fails. -/
structure ModelDeclaration.LookupsSucceed (d : ModelDeclaration) (p : Plan) : Prop where
  length_eq : p.fields.length = d.fields.length
  isClosed : p.IsClosed
  summary : Summary.ofPlan? p = some (.ofPlan p)
  run : ∀ (validators : ValidatorSet) (m : PreparedModel), PreparedModel.prepare d validators = .ok m →
    m.plan = p ∧ ∀ {ρ : Type} [Record ρ] (r : ρ) (ctx : Context), m.run? r ctx = some (m.run r ctx)
  routine : ∀ m : Derive.AnnotatedModel, m.declaration = d →
    Derive.Routine.ofPlan? m p = some (.ofPlan m p)

theorem Plan.build_lookupsSucceed {d : ModelDeclaration} (h : d.isAccepted = true) :
    ∃ p, build d = .ok p ∧ d.LookupsSucceed p := by
  have hClosed := isClosed_ofDeclaration h
  refine ⟨ofDeclaration d, by rw [build, if_pos h], ?_⟩
  refine
    { length_eq := length_fields d
      isClosed := hClosed
      summary := Summary.ofPlan?_eq_some hClosed
      run := ?_
      routine := ?_ }
  · intro validators m hPrepare
    obtain ⟨-, -, rfl⟩ := (PreparedModel.prepare_eq_ok_iff d validators m).mp hPrepare
    exact ⟨rfl, fun r ctx => PreparedModel.run?_eq_some hClosed rfl rfl r ctx⟩
  · rintro m rfl
    refine Derive.Routine.ofPlan?_eq_some hClosed ?_
    rw [length_fields]
    exact (List.length_map _).symm

theorem Plan.build_lookupsSucceed_signup :
    (Signup.declaration (some "finish")).isAccepted = true ∧
    ∃ p, build (Signup.declaration (some "finish")) = .ok p ∧
      (Signup.declaration (some "finish")).LookupsSucceed p :=
  have hAccepted : (Signup.declaration (some "finish")).isAccepted = true := by decide +kernel
  ⟨hAccepted, Plan.build_lookupsSucceed hAccepted⟩

end FieldRules
