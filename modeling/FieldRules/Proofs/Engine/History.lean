import FieldRules.Engine
import FieldRules.Proofs.Declaration.Same

/-!
# Engines after calls

An engine that was called any number of times keeps models of declarations that it was given, each as a new
engine would prepare it. It hands one out for every declaration that is equal as data, so its answers are those
of a new engine up to how messages spell a zero.
-/
set_option autoImplicit false

namespace FieldRules

theorem PreparedModel.declaration_of_prepare {d : ModelDeclaration} {validators : ValidatorSet}
    {m : PreparedModel} (h : prepare d validators = .ok m) : m.declaration = d := by
  obtain ⟨-, -, rfl⟩ := (prepare_eq_ok_iff d validators m).mp h
  rfl

inductive EngineCall : Type 1 where
  | prepare (d : ModelDeclaration)
  | prepareAll (ds : List ModelDeclaration)
  | invalidate (model : String)
  | validate {ρ : Type} [Record ρ] (d : ModelDeclaration) (r : ρ) (ctx : Context)

def EngineCall.declarations : EngineCall → List ModelDeclaration
  | prepare d => [d]
  | prepareAll ds => ds
  | invalidate _ => []
  | validate d _ _ => [d]

namespace Engine

def after (e : Engine) : EngineCall → Engine
  | .prepare d => (e.prepare d).1
  | .prepareAll ds => (e.prepareAll ds).1
  | .invalidate model => (e.invalidate model).1
  | @EngineCall.validate _ record d r ctx =>
    letI := record
    (e.validate d r ctx).1

def afterAll (e : Engine) (calls : List EngineCall) : Engine :=
  calls.foldl after e

theorem cached?_keep (e : Engine) (m : PreparedModel) (model : String) :
    (e.keep m).cached? model = if m.declaration.name = model then some m else e.cached? model :=
  Keyed.get?_insert ..

theorem validators_prepare (e : Engine) (d : ModelDeclaration) : (e.prepare d).1.validators = e.validators := by
  unfold prepare
  split
  · rfl
  · split <;> rfl

theorem validators_prepareAll (e : Engine) (ds : List ModelDeclaration) :
    (e.prepareAll ds).1.validators = e.validators := by
  induction ds generalizing e with
  | nil => rfl
  | cons d rest ih =>
    rw [prepareAll, ih]
    split <;> rfl

/-- A call never changes the validators. -/
theorem validators_after (e : Engine) (call : EngineCall) : (e.after call).validators = e.validators := by
  cases call with
  | prepare d => exact e.validators_prepare d
  | prepareAll ds => exact e.validators_prepareAll ds
  | invalidate model => rfl
  | validate d r ctx => exact e.validators_prepare d

section Cached

variable {e : Engine} {model : String} {m : PreparedModel}

theorem cached?_keep_cases {d : ModelDeclaration} {kept : PreparedModel}
    (hPrepared : PreparedModel.prepare d e.validators = .ok kept)
    (h : (e.keep kept).cached? model = some m) :
    e.cached? model = some m ∨ d.name = model ∧ PreparedModel.prepare d e.validators = .ok m := by
  rw [cached?_keep, PreparedModel.declaration_of_prepare hPrepared] at h
  split at h
  · next hEq =>
    cases h
    exact .inr ⟨hEq, hPrepared⟩
  · exact .inl h

theorem cached?_prepare {d : ModelDeclaration} (h : (e.prepare d).1.cached? model = some m) :
    e.cached? model = some m ∨ d.name = model ∧ PreparedModel.prepare d e.validators = .ok m := by
  unfold prepare at h
  split at h
  · exact .inl h
  · split at h
    · next hPrepared => exact cached?_keep_cases hPrepared h
    · exact .inl h

theorem cached?_invalidate {other : String} (h : (e.invalidate other).1.cached? model = some m) :
    e.cached? model = some m := by
  rw [invalidate, cached?, Keyed.get?_erase] at h
  split at h
  · cases h
  · exact h

theorem cached?_prepareAll {ds : List ModelDeclaration} (h : (e.prepareAll ds).1.cached? model = some m) :
    e.cached? model = some m ∨
      ∃ d ∈ ds, d.name = model ∧ PreparedModel.prepare d e.validators = .ok m := by
  induction ds generalizing e with
  | nil => exact .inl h
  | cons d rest ih =>
    rw [prepareAll] at h
    cases hPrepared : PreparedModel.prepare d e.validators with
    | error errors =>
      rw [hPrepared] at h
      obtain hOld | ⟨d', hd', hNew⟩ := ih h
      · exact .inl hOld
      · exact .inr ⟨d', List.mem_cons_of_mem d hd', hNew⟩
    | ok kept =>
      rw [hPrepared] at h
      obtain hKept | ⟨d', hd', hNew⟩ := ih h
      · exact (cached?_keep_cases hPrepared hKept).imp id fun hOwn => ⟨d, List.mem_cons_self, hOwn⟩
      · exact .inr ⟨d', List.mem_cons_of_mem d hd', hNew⟩

/-- What is kept behind a call was kept before it, or is what one of its declarations is prepared as. -/
theorem cached?_after {call : EngineCall} (h : (e.after call).cached? model = some m) :
    e.cached? model = some m ∨
      ∃ d ∈ call.declarations, d.name = model ∧ PreparedModel.prepare d e.validators = .ok m := by
  cases call with
  | prepare d => exact (cached?_prepare h).imp id fun hOwn => ⟨d, List.mem_cons_self, hOwn⟩
  | prepareAll ds => exact cached?_prepareAll h
  | invalidate other => exact .inl (cached?_invalidate h)
  | validate d r ctx => exact (cached?_prepare h).imp id fun hOwn => ⟨d, List.mem_cons_self, hOwn⟩

theorem validators_afterAll (e : Engine) (calls : List EngineCall) :
    (e.afterAll calls).validators = e.validators := by
  induction calls generalizing e with
  | nil => rfl
  | cons call rest ih => exact (ih (e.after call)).trans (e.validators_after call)

theorem cached?_afterAll {calls : List EngineCall} (h : (e.afterAll calls).cached? model = some m) :
    e.cached? model = some m ∨ ∃ d ∈ calls.flatMap EngineCall.declarations,
      d.name = model ∧ PreparedModel.prepare d e.validators = .ok m := by
  induction calls generalizing e with
  | nil => exact .inl h
  | cons call rest ih =>
    obtain hKept | ⟨d, hd, hPrepared⟩ := ih h
    · obtain hOld | ⟨d, hd, hPrepared⟩ := cached?_after hKept
      · exact .inl hOld
      · exact .inr ⟨d, List.mem_append_left _ hd, hPrepared⟩
    · rw [e.validators_after call] at hPrepared
      exact .inr ⟨d, List.mem_append_right _ hd, hPrepared⟩

end Cached

/-- Every kept model is what one of the given declarations is prepared as. -/
structure Keeps (e : Engine) (validators : ValidatorSet) (given : List ModelDeclaration) : Prop where
  validators_eq : e.validators = validators
  cached : ∀ model m, e.cached? model = some m →
    m.declaration ∈ given ∧ PreparedModel.prepare m.declaration validators = .ok m

theorem keeps_new (validators : ValidatorSet) (given : List ModelDeclaration) :
    (new validators).Keeps validators given :=
  ⟨rfl, fun _ _ h => nomatch h⟩

section Kept

variable {e : Engine} {validators : ValidatorSet} {given : List ModelDeclaration}
  (h : e.Keeps validators given)

include h

/-- The answer on a declaration comes from the declaration itself or from an equal one given before. -/
theorem Keeps.prepare_eq (d : ModelDeclaration) :
    (e.prepare d).2 = PreparedModel.prepare d validators ∨
      ∃ d' ∈ given, d'.same d = true ∧ ∃ m, PreparedModel.prepare d' validators = .ok m ∧
        (e.prepare d).2 = .ok m := by
  unfold Engine.prepare
  split
  · next m hReusable =>
    -- the kept declaration equals the asked one as data, where both zeros are the same number
    obtain ⟨hKept, hSame⟩ := Option.filter_eq_some_iff.mp hReusable
    obtain ⟨hGiven, hPrepared⟩ := h.cached d.name m hKept
    exact .inr ⟨m.declaration, hGiven, hSame, m, hPrepared, rfl⟩
  · rw [h.validators_eq]
    cases PreparedModel.prepare d validators <;> exact .inl rfl

theorem Keeps.afterAll (calls : List EngineCall)
    (hGiven : ∀ call ∈ calls, ∀ d ∈ call.declarations, d ∈ given) :
    (e.afterAll calls).Keeps validators given := by
  refine ⟨(validators_afterAll e calls).trans h.validators_eq, ?_⟩
  intro model m hKept
  obtain hOld | ⟨d, hd, -, hPrepared⟩ := cached?_afterAll hKept
  · exact h.cached model m hOld
  · rw [h.validators_eq] at hPrepared
    obtain ⟨call, hCall, hd⟩ := List.mem_flatMap.mp hd
    rw [PreparedModel.declaration_of_prepare hPrepared]
    exact ⟨hGiven call hCall d hd, hPrepared⟩

end Kept

/-- The same rejection, or validations that agree up to messages. -/
inductive AnswersAgree {ρ : Type} :
    Except (List DeclarationError) (Validated ρ) → Except (List DeclarationError) (Validated ρ) → Prop where
  | rejected (errors : List DeclarationError) : AnswersAgree (.error errors) (.error errors)
  | validated {v w : Validated ρ} (h : v.AgreesWith w) : AnswersAgree (.ok v) (.ok w)

theorem AnswersAgree.refl {ρ : Type} (answer : Except (List DeclarationError) (Validated ρ)) :
    AnswersAgree answer answer := by
  cases answer with
  | error errors => exact .rejected errors
  | ok v => exact .validated (.refl v)

theorem prepare_new (validators : ValidatorSet) (d : ModelDeclaration) :
    ((new validators).prepare d).2 = PreparedModel.prepare d validators := by
  obtain hOwn | ⟨_, hGiven, _⟩ := (keeps_new validators []).prepare_eq d
  · exact hOwn
  · cases hGiven

variable {ρ : Type} [Record ρ]

theorem validate_new (validators : ValidatorSet) (d : ModelDeclaration) (r : ρ) (ctx : Context) :
    ((new validators).validate d r ctx).2 =
      (PreparedModel.prepare d validators).map fun m => m.run r ctx := by
  rw [← prepare_new]
  rfl

theorem answersAgree_of_same {validators : ValidatorSet} {d' d : ModelDeclaration} (h : d'.same d = true)
    {m : PreparedModel} (hPrepared : PreparedModel.prepare d' validators = .ok m) (r : ρ) (ctx : Context) :
    AnswersAgree ((new validators).validate d' r ctx).2 ((new validators).validate d r ctx).2 := by
  obtain ⟨hAccepted, hResolves, _⟩ := (PreparedModel.prepare_eq_ok_iff d' validators m).mp hPrepared
  have hAlike := ModelDeclaration.alike_of_same h
  have hOld : PreparedModel.prepare d' validators = .ok (.ofDeclaration d' validators) :=
    (PreparedModel.prepare_eq_ok_iff d' validators _).mpr ⟨hAccepted, hResolves, rfl⟩
  have hNew : PreparedModel.prepare d validators = .ok (.ofDeclaration d validators) :=
    (PreparedModel.prepare_eq_ok_iff d validators _).mpr
      ⟨hAlike.isAccepted hAccepted, hAlike.resolves hResolves, rfl⟩
  rw [validate_new, validate_new, hOld, hNew]
  exact .validated (PreparedModel.run_agreesWith hAlike hAccepted validators r ctx)

/-- Whatever was called before, a validation answers as a new engine does on the declaration or on an equal one
that was given before. -/
theorem exists_validate_afterAll_eq (validators : ValidatorSet) (calls : List EngineCall) (d : ModelDeclaration)
    (r : ρ) (ctx : Context) :
    ∃ d', (d' = d ∨ d' ∈ calls.flatMap EngineCall.declarations ∧ d'.same d = true) ∧
      (((new validators).afterAll calls).validate d r ctx).2 = ((new validators).validate d' r ctx).2 ∧
      AnswersAgree ((new validators).validate d' r ctx).2 ((new validators).validate d r ctx).2 := by
  have hKeeps : ((new validators).afterAll calls).Keeps validators (calls.flatMap EngineCall.declarations) :=
    (keeps_new validators _).afterAll calls fun call hCall d hd => List.mem_flatMap.mpr ⟨call, hCall, hd⟩
  have hAnswer : (((new validators).afterAll calls).validate d r ctx).2 =
      (((new validators).afterAll calls).prepare d).2.map fun m => m.run r ctx := rfl
  obtain hOwn | ⟨d', hGiven, hSame, m, hPrepared, hReused⟩ := hKeeps.prepare_eq d
  · exact ⟨d, .inl rfl, by rw [hAnswer, validate_new, hOwn], .refl _⟩
  · exact ⟨d', .inr ⟨hGiven, hSame⟩, by rw [hAnswer, validate_new, hReused, hPrepared],
      answersAgree_of_same hSame hPrepared r ctx⟩

/-- Whatever was called before, a validation answers as a new engine does, except for the messages of
constraints. These are the same too unless an equal declaration that is not the same one was given before. -/
theorem validate_afterAll (validators : ValidatorSet) (calls : List EngineCall) (d : ModelDeclaration) (r : ρ)
    (ctx : Context) :
    AnswersAgree (((new validators).afterAll calls).validate d r ctx).2 ((new validators).validate d r ctx).2 ∧
      ((∀ d' ∈ calls.flatMap EngineCall.declarations, d'.same d = true → d' = d) →
        (((new validators).afterAll calls).validate d r ctx).2 = ((new validators).validate d r ctx).2) := by
  obtain ⟨d', hOrigin, hEq, hAgree⟩ := exists_validate_afterAll_eq validators calls d r ctx
  rw [hEq]
  refine ⟨hAgree, fun hOnly => ?_⟩
  obtain rfl | ⟨hGiven, hSame⟩ := hOrigin
  · rfl
  · rw [hOnly d' hGiven hSame]

end Engine

namespace Person

def declaration (min : Double) : ModelDeclaration :=
  { name := "Person"
    fields := [{ name := "age", fieldType := .int, constraints := [{ rule := .range min (.ofInt 120) }] }] }

def record : DynamicRecord :=
  ⟨"Person", [("age", .int 130)]⟩

def context : Context :=
  { clock := some .epoch }

/-- The model is declared with two bounds, dropped, and used with the first of them. -/
def calls : List EngineCall :=
  [.prepareAll [declaration (.ofInt 1), declaration (.ofInt 18)], .invalidate "Person",
    .validate (declaration (.ofInt 1)) record context]

end Person

namespace Engine

theorem validate_afterAll_person :
    (∀ d' ∈ Person.calls.flatMap EngineCall.declarations, d'.same (Person.declaration (.ofInt 18)) = true →
      d' = Person.declaration (.ofInt 18)) ∧
    (((new {}).afterAll Person.calls).validate (Person.declaration (.ofInt 18)) Person.record
        Person.context).2 =
      ((new {}).validate (Person.declaration (.ofInt 18)) Person.record Person.context).2 := by
  have hOnly : ∀ d' ∈ Person.calls.flatMap EngineCall.declarations,
      d'.same (Person.declaration (.ofInt 18)) = true → d' = Person.declaration (.ofInt 18) := by
    decide +kernel
  exact ⟨hOnly, (validate_afterAll {} Person.calls _ Person.record Person.context).2 hOnly⟩

def messages {ρ : Type} (answer : Except (List DeclarationError) (Validated ρ)) : List String :=
  answer.toOption.elim [] fun v => v.outcome.entries.map Entry.message

/-- A bound of minus zero is reported as the zero that was declared before. -/
theorem validate_after_zero :
    messages (((new {}).afterAll [.prepare (Person.declaration (.zero false))]).validate
        (Person.declaration (.zero true)) Person.record Person.context).2 =
      ["The field age must be between 0 and 120."] ∧
    messages ((new {}).validate (Person.declaration (.zero true)) Person.record Person.context).2 =
      ["The field age must be between -0 and 120."] := by
  decide +kernel

end Engine
end FieldRules
