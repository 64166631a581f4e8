import FieldRules.Proofs.Keyed
import FieldRules.Proofs.Prepared.Expected

/-!
# Filled slots

A declaration is prepared with a set of validators and hooks if and only if nothing is wrong with it and every name
that it refers to was registered. Each custom step of the model then has its function in the slot at its own
position, the last one registered under its name, so that no step is passed over.
-/
set_option autoImplicit false

namespace FieldRules

inductive Registration where
  | validator (name : String) (v : CustomValidator)
  | hook (name : String) (h : Hook)

namespace Registration

def validator? : Registration → Option (String × CustomValidator)
  | validator name v => some (name, v)
  | hook _ _ => none

def hook? : Registration → Option (String × Hook)
  | validator _ _ => none
  | hook name h => some (name, h)

theorem validator?_eq_some_iff {call : Registration} {name : String} {v : CustomValidator} :
    call.validator? = some (name, v) ↔ call = .validator name v := by
  cases call <;> simp [validator?]

theorem hook?_eq_some_iff {call : Registration} {name : String} {h : Hook} :
    call.hook? = some (name, h) ↔ call = .hook name h := by
  cases call <;> simp [hook?]

end Registration

/-- The validator of the last registration of a validator under a name. -/
def LastValidator (calls : List Registration) (name : String) (v : CustomValidator) : Prop :=
  IsLast Registration.validator? (fun call => call.validator?.map Prod.fst) Prod.fst calls (name, v)

def LastHook (calls : List Registration) (name : String) (h : Hook) : Prop :=
  IsLast Registration.hook? (fun call => call.hook?.map Prod.fst) Prod.fst calls (name, h)

namespace ValidatorSet

def after (s : ValidatorSet) : Registration → ValidatorSet
  | .validator name v => s.register name v
  | .hook name h => s.registerHook name h

def ofCalls (calls : List Registration) : ValidatorSet :=
  calls.foldl after {}

theorem ofCalls_eq (calls : List Registration) : ofCalls calls =
    { validators := Keyed.ofCalls Registration.validator? calls
      hooks := Keyed.ofCalls Registration.hook? calls } := by
  induction calls using List.reverseRecOn with
  | nil => rfl
  | append_singleton calls call ih =>
    rw [Keyed.ofCalls_concat, Keyed.ofCalls_concat, ofCalls, List.foldl_concat]
    unfold ofCalls at ih
    rw [ih]
    cases call <;> rfl

variable (calls : List Registration) (name : String)

theorem validator?_ofCalls_iff (v : CustomValidator) :
    (ofCalls calls).validator? name = some v ↔ LastValidator calls name v := by
  rw [validator?, ofCalls_eq]
  exact Keyed.get?_ofCalls_iff Registration.validator? calls name v

theorem hook?_ofCalls_iff (h : Hook) : (ofCalls calls).hook? name = some h ↔ LastHook calls name h := by
  rw [hook?, ofCalls_eq]
  exact Keyed.get?_ofCalls_iff Registration.hook? calls name h

theorem exists_validator?_ofCalls_iff :
    (∃ v, (ofCalls calls).validator? name = some v) ↔ ∃ v, .validator name v ∈ calls := by
  rw [ofCalls_eq]
  refine (Keyed.exists_get?_ofCalls_iff Registration.validator? calls name).trans ?_
  simp only [Registration.validator?_eq_some_iff]
  exact ⟨fun ⟨_, hMem, v, hCall⟩ => ⟨v, hCall ▸ hMem⟩, fun ⟨v, hMem⟩ => ⟨_, hMem, v, rfl⟩⟩

theorem exists_hook?_ofCalls_iff :
    (∃ h, (ofCalls calls).hook? name = some h) ↔ ∃ h, .hook name h ∈ calls := by
  rw [ofCalls_eq]
  refine (Keyed.exists_get?_ofCalls_iff Registration.hook? calls name).trans ?_
  simp only [Registration.hook?_eq_some_iff]
  exact ⟨fun ⟨_, hMem, h, hCall⟩ => ⟨h, hCall ▸ hMem⟩, fun ⟨h, hMem⟩ => ⟨_, hMem, h, rfl⟩⟩

end ValidatorSet

/-- Every name that a declaration refers to was registered, as what it is used for. -/
structure ModelDeclaration.RefersTo (d : ModelDeclaration) (calls : List Registration) : Prop where
  validator : ∀ f ∈ d.fields, ∀ w ∈ f.validators, ∃ v, .validator w.name v ∈ calls
  hook : ∀ name, d.hook = some name → ∃ h, .hook name h ∈ calls

theorem ModelDeclaration.resolves_ofCalls_iff (d : ModelDeclaration) (calls : List Registration) :
    d.Resolves (.ofCalls calls) ↔ d.RefersTo calls := by
  constructor
  · rintro ⟨hValidator, hHook⟩
    refine ⟨fun f hf w hw => ?_, fun name hName => ?_⟩
    · exact (ValidatorSet.exists_validator?_ofCalls_iff calls w.name).mp (hValidator f hf w hw)
    · exact (ValidatorSet.exists_hook?_ofCalls_iff calls name).mp (hHook name hName)
  · rintro ⟨hValidator, hHook⟩
    refine ⟨fun f hf w hw => ?_, fun name hName => ?_⟩
    · exact (ValidatorSet.exists_validator?_ofCalls_iff calls w.name).mpr (hValidator f hf w hw)
    · exact (ValidatorSet.exists_hook?_ofCalls_iff calls name).mpr (hHook name hName)

namespace PreparedModel

/-- The slots and the hook of a model, told by the registrations. -/
structure IsFilled (m : PreparedModel) (d : ModelDeclaration) (calls : List Registration) : Prop where
  plan : m.plan = .ofDeclaration d
  length_slots : m.slots.length = m.plan.validate.length
  slot_constraint : ∀ (i index : Nat) c sibling, m.plan.validate[i]? = some (.constraint index c sibling) →
    m.slots[i]? = some none
  slot_custom : ∀ (i index : Nat) w, m.plan.validate[i]? = some (.custom index w) →
    ∃ v, m.slots[i]? = some (some v) ∧ LastValidator calls w.name v
  hook_none : d.hook = none → m.hook = none
  hook_some : ∀ name, d.hook = some name → ∃ h, m.hook = some h ∧ LastHook calls name h
  /-- A run takes the steps with their slots, and none of them is one that it passes over. -/
  unskipped : ∀ index w, (.custom index w, none) ∉ m.plan.validate.zip m.slots

section Slots

variable {d : ModelDeclaration} {validators : ValidatorSet}

theorem getElem?_slots (i : Nat) : (ofDeclaration d validators).slots[i]? =
    (ofDeclaration d validators).plan.validate[i]?.map (slot validators) :=
  List.getElem?_map ..

theorem exists_of_custom_mem (hResolves : d.Resolves validators) {index : Nat} {w : ValidatorRef}
    (h : .custom index w ∈ (Plan.ofDeclaration d).validate) : ∃ v, validators.validator? w.name = some v := by
  obtain ⟨f, i, hf, hs⟩ := (Plan.mem_validate_iff d _).mp h
  have hMem : w ∈ (f.steps d i).filterMap ValidateStep.validator? := List.mem_filterMap.mpr ⟨_, hs, rfl⟩
  rw [FieldDeclaration.validators_of_steps] at hMem
  exact hResolves.validator f (List.mem_of_getElem? hf) w hMem

end Slots

theorem isFilled_ofDeclaration {d : ModelDeclaration} {calls : List Registration}
    (hResolves : d.Resolves (.ofCalls calls)) : (ofDeclaration d (.ofCalls calls)).IsFilled d calls := by
  constructor
  case plan => rfl
  case length_slots => exact List.length_map _
  case slot_constraint =>
    intro i index c sibling hStep
    rw [getElem?_slots, hStep]
    rfl
  case slot_custom =>
    intro i index w hStep
    obtain ⟨v, hFound⟩ := exists_of_custom_mem hResolves (List.mem_of_getElem? hStep)
    refine ⟨v, ?_, (ValidatorSet.validator?_ofCalls_iff calls w.name v).mp hFound⟩
    rw [getElem?_slots, hStep]
    exact congrArg some hFound
  case hook_none =>
    intro hNone
    rw [ofDeclaration, hNone]
    rfl
  case hook_some =>
    intro name hName
    obtain ⟨h, hFound⟩ := hResolves.hook name hName
    refine ⟨h, ?_, (ValidatorSet.hook?_ofCalls_iff calls name h).mp hFound⟩
    rw [ofDeclaration, hName]
    exact hFound
  case unskipped =>
    intro index w hMem
    obtain ⟨i, hPair⟩ := List.mem_iff_getElem?.mp hMem
    obtain ⟨hStep, hSlot⟩ := List.getElem?_zip_eq_some.mp hPair
    obtain ⟨v, hFound⟩ := exists_of_custom_mem hResolves (List.mem_of_getElem? hStep)
    rw [getElem?_slots, hStep] at hSlot
    cases hFound.symm.trans (Option.some.inj hSlot)

/-- A declaration is prepared if nothing is wrong with it and all of its names are registered, and then each slot
holds what was registered last. -/
theorem prepare_ofCalls (calls : List Registration) (d : ModelDeclaration) :
    ((∃ m, prepare d (.ofCalls calls) = .ok m) ↔ d.errors = [] ∧ d.RefersTo calls) ∧
      ∀ m, prepare d (.ofCalls calls) = .ok m → m.IsFilled d calls := by
  simp only [prepare_eq_ok_iff, d.errors_eq_nil_iff, d.resolves_ofCalls_iff]
  refine ⟨?_, ?_⟩
  · constructor
    · rintro ⟨m, hAccepted, hRefers, -⟩
      exact ⟨hAccepted, hRefers⟩
    · rintro ⟨hAccepted, hRefers⟩
      exact ⟨_, hAccepted, hRefers, rfl⟩
  · rintro m ⟨-, hRefers, rfl⟩
    exact isFilled_ofDeclaration ((d.resolves_ofCalls_iff calls).mpr hRefers)

end PreparedModel

namespace Voucher

def declaration : ModelDeclaration :=
  { name := "Voucher"
    fields := [{ name := "code", constraints := [{ rule := .required }], validators := [{ name := "known" }] }]
    hook := some "dated" }

def offline : CustomValidator :=
  ⟨fun _ _ => .faulted "offline"⟩

def admitting : CustomValidator :=
  ⟨fun _ _ => .finished .empty⟩

def silent : Hook :=
  ⟨fun _ _ => []⟩

def calls : List Registration :=
  [.validator "known" offline, .hook "dated" silent, .validator "known" admitting]

theorem refersTo_calls : declaration.RefersTo calls where
  validator f hf w hw := by
    obtain rfl := List.mem_singleton.mp hf
    obtain rfl := List.mem_singleton.mp hw
    exact ⟨admitting, by simp [calls]⟩
  hook name hName := by
    obtain rfl := Option.some.inj hName
    exact ⟨silent, by simp [calls]⟩

end Voucher

theorem PreparedModel.prepare_ofCalls_voucher :
    ∃ m, prepare Voucher.declaration (.ofCalls Voucher.calls) = .ok m ∧
      m.slots = [none, some Voucher.admitting] ∧ m.IsFilled Voucher.declaration Voucher.calls := by
  have hCorrect : Voucher.declaration.errors = [] := by decide +kernel
  obtain ⟨m, hm⟩ := (prepare_ofCalls _ _).1.mpr ⟨hCorrect, Voucher.refersTo_calls⟩
  refine ⟨m, hm, ?_, (prepare_ofCalls _ _).2 m hm⟩
  obtain ⟨-, -, rfl⟩ := (prepare_eq_ok_iff _ _ m).mp hm
  rfl

end FieldRules
