import FieldRules.Declaration.Builder
import Mathlib.Data.List.Basic

/-!
# Fields by their calls

What a row of calls makes of a field can be read off the row. Each call that adds a constraint stands for one, which
the modifiers up to the next such call change; of modifiers of one kind the last one counts. Every field is made by
calls that add rules alone.
-/
set_option autoImplicit false

namespace FieldRules

section Last

variable {α β : Type}

/-- What the last of some calls gives that gives anything. -/
def lastOf (given : α → Option β) (calls : List α) : Option β :=
  (calls.filterMap given).getLast?

theorem lastOf_append (given : α → Option β) (earlier later : List α) :
    lastOf given (earlier ++ later) = (lastOf given later).or (lastOf given earlier) := by
  rw [lastOf, List.filterMap_append, List.getLast?_append, lastOf, lastOf]

theorem lastOf_cons (given : α → Option β) (call : α) (rest : List α) :
    lastOf given (call :: rest) = (lastOf given rest).or (given call) := by
  have hFirst : lastOf given [call] = given call := by
    cases h : given call <;> simp [lastOf, h]
  rw [← hFirst, ← lastOf_append, List.singleton_append]

theorem modifyLast_concat (change : α → α) (l : List α) (a : α) :
    modifyLast change (l ++ [a]) = l ++ [change a] := by
  induction l with
  | nil => rfl
  | cons b rest ih =>
    cases rest with
    | nil => rfl
    | cons d rest => exact congrArg (b :: ·) ih

theorem modifyLast_modifyLast (first second : α → α) (l : List α) :
    modifyLast second (modifyLast first l) = modifyLast (second ∘ first) l := by
  rcases List.eq_nil_or_concat' l with rfl | ⟨l, a, rfl⟩
  · rfl
  · simp only [modifyLast_concat, Function.comp_apply]

theorem modifyLast_id (l : List α) : modifyLast id l = l := by
  rcases List.eq_nil_or_concat' l with rfl | ⟨l, a, rfl⟩
  · rfl
  · rw [modifyLast_concat, id_eq]

end Last

namespace Modifier

def message? : Modifier → Option MessageSource
  | message template => some (.literal template)
  | messageKey key => some (.resource key)
  | _ => none

def severity? : Modifier → Option Severity
  | severity s => some s
  | _ => none

def group? : Modifier → Option String
  | group g => some g
  | _ => none

end Modifier

namespace Constraint

/-- The constraint with the last message, the last severity and the last group that modifiers give. -/
def modified (ms : List Modifier) (c : Constraint) : Constraint where
  rule := c.rule
  message := (lastOf Modifier.message? ms).or c.message
  severity := (lastOf Modifier.severity? ms).getD c.severity
  group := (lastOf Modifier.group? ms).or c.group

theorem modified_nil : modified [] = id :=
  rfl

theorem modified_singleton (m : Modifier) : modified [m] = (Modifier.apply · m) := by
  cases m <;> rfl

theorem modified_append (earlier later : List Modifier) :
    modified (earlier ++ later) = modified later ∘ modified earlier := by
  funext c
  simp only [modified, lastOf_append, Function.comp_apply, Option.or_assoc]
  cases lastOf Modifier.severity? later <;> rfl

end Constraint

namespace FieldCall

def added? : FieldCall → Option Constraint
  | constraint c => some c
  | rule r => some { rule := r }
  | _ => none

def modification? : FieldCall → Option Modifier
  | modify m => some m
  | _ => none

def validator? : FieldCall → Option ValidatorRef
  | custom name => some ⟨name, false⟩
  | customAsync name => some ⟨name, true⟩
  | _ => none

def label? : FieldCall → Option String
  | displayName label => some label
  | _ => none

def directive? : FieldCall → Option Directive
  | sanitize d => some d
  | _ => none

/-- The modifiers up to the next call that adds a constraint. -/
def upToNext (calls : List FieldCall) : List Modifier :=
  (calls.takeWhile fun call => call.added?.isNone).filterMap modification?

/-- The constraints that calls add, each with the modifiers behind it. -/
def constraints : List FieldCall → List Constraint
  | [] => []
  | call :: rest => (call.added?.map (Constraint.modified (upToNext rest))).toList ++ constraints rest

variable {call : FieldCall} {c : Constraint}

theorem upToNext_of_added (h : call.added? = some c) (rest : List FieldCall) : upToNext (call :: rest) = [] := by
  rw [upToNext, List.takeWhile_cons_of_neg (by simp [h])]
  rfl

theorem upToNext_of_not_added (h : call.added? = none) (rest : List FieldCall) :
    upToNext (call :: rest) = call.modification?.toList ++ upToNext rest := by
  rw [upToNext, List.takeWhile_cons_of_pos (by simp [h]), List.filterMap_cons]
  cases call.modification? <;> rfl

theorem upToNext_append {between after : List FieldCall} (hBetween : ∀ b ∈ between, b.added? = none)
    (hAfter : ∀ a ∈ after.head?, a.added?.isSome = true) :
    upToNext (between ++ after) = between.filterMap modification? := by
  have hNone : ∀ b ∈ between, b.added?.isNone = true := fun b hb => by simp [hBetween b hb]
  have hEnd : after.takeWhile (fun call => call.added?.isNone) = [] := by
    cases after with
    | nil => rfl
    | cons a after =>
      have hSome := hAfter a rfl
      exact List.takeWhile_cons_of_neg (by simpa [Option.isSome_iff_ne_none] using hSome)
  rw [upToNext, List.takeWhile_append_of_pos hNone, hEnd, List.append_nil]

theorem constraints_apply_of_added (h : call.added? = some c) (f : FieldDeclaration) :
    (call.apply f).constraints = f.constraints ++ [c] := by
  cases call with
  | constraint | rule =>
    cases h
    rfl
  | _ => cases h

theorem constraints_apply_of_not_added (h : call.added? = none) (f : FieldDeclaration) :
    (call.apply f).constraints = modifyLast (Constraint.modified call.modification?.toList) f.constraints := by
  cases call with
  | constraint | rule => cases h
  | modify m =>
    rw [modification?, Option.toList_some, Constraint.modified_singleton]
    rfl
  | _ => exact (modifyLast_id f.constraints).symm

theorem constraints_foldl (calls : List FieldCall) (f : FieldDeclaration) :
    (calls.foldl apply f).constraints =
      modifyLast (Constraint.modified (upToNext calls)) f.constraints ++ constraints calls := by
  induction calls generalizing f with
  | nil => exact (modifyLast_id f.constraints).symm.trans (List.append_nil _).symm
  | cons call rest ih =>
    rw [List.foldl_cons, ih, constraints]
    cases h : call.added? with
    | some c =>
      rw [constraints_apply_of_added h, modifyLast_concat, upToNext_of_added h, Constraint.modified_nil,
        modifyLast_id, List.append_assoc]
      rfl
    | none =>
      rw [constraints_apply_of_not_added h, modifyLast_modifyLast, upToNext_of_not_added h,
        Constraint.modified_append]
      rfl

theorem length_constraints (calls : List FieldCall) :
    (constraints calls).length = (calls.filterMap added?).length := by
  induction calls with
  | nil => rfl
  | cons call rest ih =>
    rw [constraints, List.length_append, ih, List.filterMap_cons]
    cases call.added? with
    | none => exact Nat.zero_add _
    | some c => exact Nat.add_comm 1 _

theorem drop_constraints (before rest : List FieldCall) :
    (constraints (before ++ rest)).drop (before.filterMap added?).length = constraints rest := by
  induction before with
  | nil => rfl
  | cons call before ih =>
    rw [List.cons_append, constraints, List.filterMap_cons]
    cases call.added? with
    | none => exact ih
    | some c => exact ih

end FieldCall

namespace FieldDeclaration

/-- A field is what a row of calls says. It has one constraint for each call that adds one, in their order, with what
the modifiers behind that call say up to the next such call, whatever else is called there. -/
structure IsMadeBy (name : String) (type : FieldType) (calls : List FieldCall) (f : FieldDeclaration) : Prop where
  name : f.name = name
  fieldType : f.fieldType = type
  nullable : f.nullable = true ↔ .nullable ∈ calls
  displayName : f.displayName = lastOf FieldCall.label? calls
  sanitize : f.sanitize = lastOf FieldCall.directive? calls
  validators : f.validators = calls.filterMap FieldCall.validator?
  length : f.constraints.length = (calls.filterMap FieldCall.added?).length
  constraint : ∀ before call between after c, calls = before ++ call :: (between ++ after) →
    call.added? = some c → (∀ b ∈ between, b.added? = none) → (∀ a ∈ after.head?, a.added?.isSome = true) →
    f.constraints[(before.filterMap FieldCall.added?).length]? =
      some (c.modified (between.filterMap FieldCall.modification?))

section Parts

variable (calls : List FieldCall) (f : FieldDeclaration)

theorem foldl_kept {β : Type} (part : FieldDeclaration → β)
    (h : ∀ f call, part (FieldCall.apply f call) = part f) :
    part (calls.foldl FieldCall.apply f) = part f := by
  induction calls generalizing f with
  | nil => rfl
  | cons call rest ih => rw [List.foldl_cons, ih, h]

theorem foldl_last {β : Type} (part : FieldDeclaration → Option β) (given : FieldCall → Option β)
    (h : ∀ f call, part (FieldCall.apply f call) = (given call).or (part f)) :
    part (calls.foldl FieldCall.apply f) = (lastOf given calls).or (part f) := by
  induction calls generalizing f with
  | nil => rfl
  | cons call rest ih => rw [List.foldl_cons, ih, h, lastOf_cons, Option.or_assoc]

theorem validators_foldl :
    (calls.foldl FieldCall.apply f).validators = f.validators ++ calls.filterMap FieldCall.validator? := by
  induction calls generalizing f with
  | nil => exact (List.append_nil _).symm
  | cons call rest ih =>
    rw [List.foldl_cons, ih, List.filterMap_cons]
    cases call <;> simp [FieldCall.apply, FieldCall.validator?]

theorem nullable_foldl :
    (calls.foldl FieldCall.apply f).nullable = true ↔ f.nullable = true ∨ .nullable ∈ calls := by
  induction calls generalizing f with
  | nil => simp
  | cons call rest ih =>
    rw [List.foldl_cons, ih]
    cases call <;> simp [FieldCall.apply]

end Parts

theorem ofCalls_isMadeBy (name : String) (type : FieldType) (calls : List FieldCall) :
    (ofCalls name type calls).IsMadeBy name type calls := by
  have hConstraints : (ofCalls name type calls).constraints = FieldCall.constraints calls :=
    FieldCall.constraints_foldl calls _
  refine
    { name := foldl_kept calls _ FieldDeclaration.name fun f call => by cases call <;> rfl
      fieldType := foldl_kept calls _ FieldDeclaration.fieldType fun f call => by cases call <;> rfl
      nullable := (nullable_foldl calls _).trans (or_iff_right Bool.false_ne_true)
      displayName := ?_
      sanitize := ?_
      validators := validators_foldl calls _
      length := by rw [hConstraints, FieldCall.length_constraints]
      constraint := ?_ }
  · refine (foldl_last calls _ FieldDeclaration.displayName FieldCall.label? fun f call => ?_).trans Option.or_none
    cases call <;> rfl
  · refine (foldl_last calls _ FieldDeclaration.sanitize FieldCall.directive? fun f call => ?_).trans Option.or_none
    cases call <;> rfl
  · rintro before call between after c rfl hAdded hBetween hAfter
    rw [hConstraints, ← List.head?_drop, FieldCall.drop_constraints, FieldCall.constraints, hAdded,
      FieldCall.upToNext_append hBetween hAfter]
    rfl

theorem foldl_unmodified {calls : List FieldCall} (h : ∀ call ∈ calls, call.added? = none) {f : FieldDeclaration}
    (hNone : f.constraints = []) :
    (calls.filter fun call => call.modification?.isNone).foldl FieldCall.apply f = calls.foldl FieldCall.apply f := by
  induction calls generalizing f with
  | nil => rfl
  | cons call rest ih =>
    obtain ⟨hFirst, hRest⟩ := List.forall_mem_cons.mp h
    have hStill : (call.apply f).constraints = [] := by
      rw [FieldCall.constraints_apply_of_not_added hFirst, hNone]
      rfl
    rw [List.foldl_cons, ← ih hRest hStill]
    cases call with
    | modify m =>
      have hSame : FieldCall.apply f (.modify m) = f := by
        rw [FieldCall.apply, hNone]
        exact congrArg (fun constraints => { f with constraints := constraints }) hNone.symm
      rw [hSame]
      rfl
    | constraint | rule => cases hFirst
    | _ => rfl

end FieldDeclaration

/-! ## Calls for a field -/

def Constraint.modifiers (c : Constraint) : List Modifier :=
  (c.message.map fun
    | .literal template => Modifier.message template
    | .resource key => .messageKey key).toList ++ [.severity c.severity] ++ (c.group.map Modifier.group).toList

def Constraint.calls (c : Constraint) : List FieldCall :=
  .rule c.rule :: c.modifiers.map .modify

def ValidatorRef.call (v : ValidatorRef) : FieldCall :=
  if v.isAsync then .customAsync v.name else .custom v.name

namespace FieldDeclaration

def calls (f : FieldDeclaration) : List FieldCall :=
  (if f.nullable then [.nullable] else []) ++ (f.displayName.map FieldCall.displayName).toList ++
    f.constraints.flatMap Constraint.calls ++ (f.sanitize.map FieldCall.sanitize).toList ++
    f.validators.map ValidatorRef.call

theorem foldl_modify (ms : List Modifier) (f : FieldDeclaration) :
    (ms.map FieldCall.modify).foldl FieldCall.apply f =
      { f with constraints := modifyLast (Constraint.modified ms) f.constraints } := by
  induction ms generalizing f with
  | nil => rw [Constraint.modified_nil, modifyLast_id]; rfl
  | cons m rest ih =>
    rw [List.map_cons, List.foldl_cons, ih, FieldCall.apply, modifyLast_modifyLast, ← List.singleton_append,
      Constraint.modified_append, Constraint.modified_singleton]

theorem modified_modifiers (c : Constraint) : Constraint.modified c.modifiers { rule := c.rule } = c := by
  obtain ⟨r, message, severity, group⟩ := c
  rcases message with _ | _ | _ <;> cases group <;> rfl

theorem foldl_constraintCalls (constraints : List Constraint) (f : FieldDeclaration) :
    (constraints.flatMap Constraint.calls).foldl FieldCall.apply f =
      { f with constraints := f.constraints ++ constraints } := by
  induction constraints generalizing f with
  | nil => rw [List.append_nil]; rfl
  | cons c rest ih =>
    rw [List.flatMap_cons, List.foldl_append, Constraint.calls, List.foldl_cons, foldl_modify, ih, FieldCall.apply,
      modifyLast_concat, modified_modifiers, List.append_assoc, List.singleton_append]

theorem foldl_validatorCalls (validators : List ValidatorRef) (f : FieldDeclaration) :
    (validators.map ValidatorRef.call).foldl FieldCall.apply f =
      { f with validators := f.validators ++ validators } := by
  induction validators generalizing f with
  | nil => rw [List.append_nil]; rfl
  | cons v rest ih =>
    obtain ⟨name, isAsync⟩ := v
    rw [List.map_cons, List.foldl_cons, ih]
    cases isAsync <;> simp [ValidatorRef.call, FieldCall.apply]

theorem ofCalls_calls (f : FieldDeclaration) : ofCalls f.name f.fieldType f.calls = f := by
  obtain ⟨name, type, nullable, displayName, constraints, sanitize, validators⟩ := f
  simp only [ofCalls, calls, List.foldl_append, foldl_constraintCalls, foldl_validatorCalls]
  cases nullable <;> cases displayName <;> cases sanitize <;> rfl

theorem notMem_calls (f : FieldDeclaration) (c : Constraint) : .constraint c ∉ f.calls := by
  have hNullable : .constraint c ∉ (if f.nullable then [FieldCall.nullable] else []) := by split <;> simp
  have hValidator (v : ValidatorRef) : v.call ≠ .constraint c := by
    unfold ValidatorRef.call
    split <;> nofun
  simp [calls, Constraint.calls, hNullable, hValidator]

/-- Whatever is called in whatever order, the field is what the calls say, part by part; modifiers before the first
constraint could as well be left out. Every field is made by calls that add rules alone. -/
theorem ofCalls_composes (name : String) (type : FieldType) (calls : List FieldCall) :
    (ofCalls name type calls).IsMadeBy name type calls ∧
      (∀ early later, calls = early ++ later → (∀ call ∈ early, call.added? = none) →
        ofCalls name type ((early.filter fun call => call.modification?.isNone) ++ later) = ofCalls name type calls) ∧
      ∀ f : FieldDeclaration, ∃ fieldCalls, (∀ c, .constraint c ∉ fieldCalls) ∧
        ofCalls f.name f.fieldType fieldCalls = f := by
  refine ⟨ofCalls_isMadeBy name type calls, ?_, fun f => ⟨f.calls, f.notMem_calls, f.ofCalls_calls⟩⟩
  rintro early later rfl hEarly
  rw [ofCalls, ofCalls, List.foldl_append, List.foldl_append, foldl_unmodified hEarly rfl]

end FieldDeclaration
end FieldRules
