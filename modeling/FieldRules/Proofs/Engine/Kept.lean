import FieldRules.Proofs.Engine.History

/-!
# What engines keep

An engine keeps a model under the name of the declaration that it was prepared from, and only if nothing is wrong
with that declaration. One that is rejected leaves the engine and the record as they were, also among others.
-/
set_option autoImplicit false

namespace FieldRules

namespace ModelDeclaration

/-- Why a declaration is rejected: its own errors, or if it has none those of its references. -/
def rejection (d : ModelDeclaration) (validators : ValidatorSet) : List DeclarationError :=
  if d.isAccepted then d.referenceErrors validators.hasValidator validators.hasHook else d.errors

theorem rejection_eq_nil_iff (d : ModelDeclaration) (validators : ValidatorSet) :
    d.rejection validators = [] ↔ d.isAccepted = true ∧ d.Resolves validators := by
  rw [rejection, ← d.referenceErrors_eq_nil_iff]
  split
  · next hAccepted => simp [hAccepted]
  · next hAccepted => simp [hAccepted, d.errors_eq_nil_iff]

theorem rejection_eq_nil_of_same {d d' : ModelDeclaration} {validators : ValidatorSet}
    (hSame : d'.same d = true) (h : d'.rejection validators = []) : d.rejection validators = [] := by
  obtain ⟨hAccepted, hResolves⟩ := (d'.rejection_eq_nil_iff validators).mp h
  have hAlike := alike_of_same hSame
  exact (d.rejection_eq_nil_iff validators).mpr ⟨hAlike.isAccepted hAccepted, hAlike.resolves hResolves⟩

end ModelDeclaration

namespace PreparedModel

theorem rejection_of_prepare {d : ModelDeclaration} {validators : ValidatorSet} {m : PreparedModel}
    (h : prepare d validators = .ok m) : d.rejection validators = [] := by
  obtain ⟨hAccepted, hResolves, -⟩ := (prepare_eq_ok_iff d validators m).mp h
  exact (d.rejection_eq_nil_iff validators).mpr ⟨hAccepted, hResolves⟩

theorem prepare_of_rejection {d : ModelDeclaration} {validators : ValidatorSet}
    (h : d.rejection validators ≠ []) : prepare d validators = .error (d.rejection validators) := by
  unfold ModelDeclaration.rejection at h ⊢
  unfold prepare Plan.build
  split
  · next hAccepted =>
    rw [if_pos hAccepted] at h
    have hReferences : (d.referenceErrors validators.hasValidator validators.hasHook).isEmpty = false := by
      simpa using h
    simp [Except.bind, ofPlan, hReferences]
  · rfl

end PreparedModel

/-- The record behind a call: as the validation left it, or as it was given where there was none. -/
def recordLeft {ε ρ : Type} (r : ρ) : Except ε (Validated ρ) → ρ
  | .ok v => v.record
  | .error _ => r

namespace Engine

def keeping (e : Engine) (d : ModelDeclaration) : Engine :=
  match PreparedModel.prepare d e.validators with
  | .ok m => e.keep m
  | .error _ => e

section PrepareAll

variable (e : Engine) (d : ModelDeclaration) (rest : List ModelDeclaration)

theorem prepareAll_cons_fst : (e.prepareAll (d :: rest)).1 = ((e.keeping d).prepareAll rest).1 :=
  rfl

theorem prepareAll_cons_snd : (e.prepareAll (d :: rest)).2 =
    PreparedModel.prepare d e.validators :: ((e.keeping d).prepareAll rest).2 :=
  rfl

theorem validators_keeping : (e.keeping d).validators = e.validators := by
  unfold keeping
  split <;> rfl

/-- Every declaration is prepared as if it were the only one. -/
theorem prepareAll_snd (ds : List ModelDeclaration) :
    (e.prepareAll ds).2 = ds.map fun d => PreparedModel.prepare d e.validators := by
  induction ds generalizing e with
  | nil => rfl
  | cons d rest ih => rw [prepareAll_cons_snd, ih, validators_keeping, List.map_cons]

end PrepareAll

section Rejected

variable {e : Engine} {d : ModelDeclaration} (hRejected : d.rejection e.validators ≠ [])

include hRejected

theorem keeping_of_rejection : e.keeping d = e := by
  rw [keeping, PreparedModel.prepare_of_rejection hRejected]

theorem prepareAll_of_rejection (earlier later : List ModelDeclaration) :
    (e.prepareAll (earlier ++ d :: later)).1 = (e.prepareAll (earlier ++ later)).1 := by
  induction earlier generalizing e with
  | nil => rw [List.nil_append, prepareAll_cons_fst, keeping_of_rejection hRejected, List.nil_append]
  | cons first earlier ih =>
    rw [List.cons_append, prepareAll_cons_fst, List.cons_append, prepareAll_cons_fst]
    exact ih (by rwa [validators_keeping])

variable (hKept : ∀ model m, e.cached? model = some m → m.declaration.rejection e.validators = [])

include hKept

/-- A kept model of an equal declaration would show that the declaration is not rejected. -/
theorem reusable?_of_rejection : e.reusable? d = none := by
  cases hReusable : e.reusable? d with
  | none => rfl
  | some m =>
    obtain ⟨hCached, hSame⟩ := Option.filter_eq_some_iff.mp hReusable
    exact absurd (ModelDeclaration.rejection_eq_nil_of_same hSame (hKept d.name m hCached)) hRejected

theorem prepare_of_rejection : e.prepare d = (e, .error (d.rejection e.validators)) := by
  rw [prepare, reusable?_of_rejection hRejected hKept, PreparedModel.prepare_of_rejection hRejected]

end Rejected

/-- What holds of an engine that was called with some declarations: what it keeps, and what it does on one that is
rejected, alone or among others. -/
structure KeepsAccepted (e : Engine) (validators : ValidatorSet) (given : List ModelDeclaration) : Prop where
  kept : ∀ model m, e.cached? model = some m → ∃ d ∈ given, d.name = model ∧
    PreparedModel.prepare d validators = .ok m ∧ d.errors = [] ∧
    d.referenceErrors validators.hasValidator validators.hasHook = [] ∧ m.plan = .ofDeclaration d
  prepare_rejected : ∀ d : ModelDeclaration, d.rejection validators ≠ [] →
    e.prepare d = (e, .error (d.rejection validators))
  validate_rejected : ∀ (d : ModelDeclaration) {ρ : Type} [Record ρ] (r : ρ) (ctx : Context),
    d.rejection validators ≠ [] → e.validate d r ctx = (e, .error (d.rejection validators)) ∧
      recordLeft r (e.validate d r ctx).2 = r
  prepareAll_rejected : ∀ (earlier : List ModelDeclaration) (d : ModelDeclaration) (later : List ModelDeclaration),
    d.rejection validators ≠ [] → e.prepareAll (earlier ++ d :: later) =
      ((e.prepareAll (earlier ++ later)).1,
        (e.prepareAll earlier).2 ++ .error (d.rejection validators) :: (e.prepareAll later).2)
  prepareAll_alone : ∀ ds : List ModelDeclaration,
    (e.prepareAll ds).2 = ds.map fun d => ((new validators).prepare d).2

section AfterAll

variable {validators : ValidatorSet} {calls : List EngineCall}

theorem exists_of_cached?_afterAll {model : String} {m : PreparedModel}
    (h : ((new validators).afterAll calls).cached? model = some m) :
    ∃ d ∈ calls.flatMap EngineCall.declarations, d.name = model ∧ PreparedModel.prepare d validators = .ok m := by
  obtain hNew | hGiven := cached?_afterAll h
  · cases hNew
  · exact hGiven

theorem prepare_afterAll_of_rejection {d : ModelDeclaration} (h : d.rejection validators ≠ []) :
    ((new validators).afterAll calls).prepare d =
      ((new validators).afterAll calls, .error (d.rejection validators)) := by
  have hValidators : ((new validators).afterAll calls).validators = validators :=
    validators_afterAll (new validators) calls
  have hKept : ∀ model m, ((new validators).afterAll calls).cached? model = some m →
      m.declaration.rejection ((new validators).afterAll calls).validators = [] := by
    intro model m hCached
    obtain ⟨d, -, -, hPrepared⟩ := exists_of_cached?_afterAll hCached
    rw [hValidators, PreparedModel.declaration_of_prepare hPrepared]
    exact PreparedModel.rejection_of_prepare hPrepared
  rw [prepare_of_rejection (by rwa [hValidators]) hKept, hValidators]

end AfterAll

/-- Whatever was called, an engine keeps accepted models alone, and what it rejects leaves no trace. -/
theorem keepsAccepted_afterAll (validators : ValidatorSet) (calls : List EngineCall) :
    ((new validators).afterAll calls).KeepsAccepted validators (calls.flatMap EngineCall.declarations) := by
  have hValidators : ((new validators).afterAll calls).validators = validators :=
    validators_afterAll (new validators) calls
  constructor
  case kept =>
    intro model m h
    obtain ⟨d, hd, hName, hPrepared⟩ := exists_of_cached?_afterAll h
    obtain ⟨hAccepted, hResolves, hModel⟩ := (PreparedModel.prepare_eq_ok_iff d validators m).mp hPrepared
    refine ⟨d, hd, hName, hPrepared, (d.errors_eq_nil_iff).mpr hAccepted, ?_, ?_⟩
    · exact (d.referenceErrors_eq_nil_iff validators).mpr hResolves
    · rw [hModel]
      rfl
  case prepare_rejected =>
    intro d hRejected
    exact prepare_afterAll_of_rejection hRejected
  case validate_rejected =>
    intro d ρ _ r ctx hRejected
    have hValidate : ((new validators).afterAll calls).validate d r ctx =
        ((new validators).afterAll calls, .error (d.rejection validators)) := by
      rw [validate, prepare_afterAll_of_rejection hRejected]
      rfl
    refine ⟨hValidate, ?_⟩
    rw [hValidate]
    rfl
  case prepareAll_rejected =>
    intro earlier d later hRejected
    apply Prod.ext
    · exact prepareAll_of_rejection (by rwa [hValidators]) earlier later
    · simp only [prepareAll_snd, hValidators, List.map_append, List.map_cons,
        PreparedModel.prepare_of_rejection hRejected]
  case prepareAll_alone =>
    intro ds
    rw [prepareAll_snd, hValidators]
    exact List.map_congr_left fun d _ => (prepare_new validators d).symm

/-- A declaration whose bounds are out of order does not take the place of the one before it. -/
example : (((new {}).afterAll [.prepare (Person.declaration (.ofInt 18)),
    .prepare (Person.declaration (.ofInt 130))]).cached? "Person").map PreparedModel.declaration =
      some (Person.declaration (.ofInt 18)) := by
  decide +kernel

end Engine
end FieldRules
