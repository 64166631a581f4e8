import FieldRules.Proofs.Declaration.Saved
import FieldRules.Proofs.Engine.History
import Mathlib.Algebra.Order.BigOperators.Group.List
import Mathlib.Algebra.Order.Group.Nat

/-!
# Saved declarations at work

What an accepted declaration is read back as is enforced as the declaration itself exactly when none of its
targets was lost. A target that was lost is told by a record whose values meet no target but null.
-/
set_option autoImplicit false

namespace FieldRules

namespace Value

/-- A sibling without a content, or with one that equals nothing, meets a target that is not saved only as
null. -/
theorem looseEq_saved {u : Value} (hu : u = null ∨ u = float .nan) {v : Value} (h : u.looseEq v = true) :
    u.looseEq v.saved = true := by
  obtain rfl | rfl := hu
  · cases v with
    | null => rfl
    | _ => cases h
  · cases v with
    | text s =>
      change textEqualsNumber s .nan = true at h
      exact h
    | float x => simp [looseEq, Double.same, Double.position] at h
    | _ => cases h

end Value

section Lengths

variable {α β γ : Type} {items : List α} {f : α → List β} {g : α → List γ}

theorem length_flatMap_le (h : ∀ a ∈ items, (f a).length ≤ (g a).length) :
    (items.flatMap f).length ≤ (items.flatMap g).length := by
  rw [List.length_flatMap, List.length_flatMap]
  exact List.sum_le_sum h

theorem length_flatMap_lt (h : ∀ a ∈ items, (f a).length ≤ (g a).length)
    (hLt : ∃ a ∈ items, (f a).length < (g a).length) : (items.flatMap f).length < (items.flatMap g).length := by
  rw [List.length_flatMap, List.length_flatMap]
  exact List.sum_lt_sum _ _ h hLt

end Lengths

/-- A value that a conditional rule refuses once it is in force. -/
def Rule.refused : Rule → Value
  | conditionalRange _ _ _ _ => .float .nan
  | _ => .null

def Rule.refusedRecord (model field : String) (r : Rule) : DynamicRecord :=
  ⟨model, [(field, r.refused)]⟩

namespace Rule

variable (model field : String) (r : Rule)

theorem refused_cases : r.refused = .null ∨ r.refused = .float .nan := by
  cases r <;> simp [refused]

theorem read_refusedRecord (name : String) :
    Record.read (r.refusedRecord model field) name = if field = name then r.refused else .null := by
  change ((some (((r.refusedRecord model field).get? name).getD .null)).getD .null : Value) = _
  by_cases h : field = name <;> simp [refusedRecord, DynamicRecord.get?, Keyed.get?, h]

theorem read_refusedRecord_cases (name : String) :
    Record.read (r.refusedRecord model field) name = .null ∨
      Record.read (r.refusedRecord model field) name = .float .nan := by
  rw [read_refusedRecord]
  split
  · exact r.refused_cases
  · exact .inl rfl

theorem sanitize_refusedRecord (d : ModelDeclaration) :
    PreparedModel.sanitize (Plan.ofDeclaration d) (r.refusedRecord model field) =
      r.refusedRecord model field := by
  have hValue (directive : Directive) : r.refused.sanitize directive = r.refused := by
    obtain h | h := r.refused_cases <;> rw [h] <;> rfl
  have hDirective (name : String) (directive : Directive) :
      Record.sanitized (r.refusedRecord model field) name directive = r.refusedRecord model field := by
    rw [DynamicRecord.sanitized_eq]
    by_cases h : field = name <;>
      simp [refusedRecord, DynamicRecord.get?, DynamicRecord.set, Keyed.get?, Keyed.insert, h, hValue]
  rw [PreparedModel.sanitize_eq_foldl]
  induction d.fields with
  | nil => rfl
  | cons f rest ih =>
    have hApply : f.applyTo (r.refusedRecord model field) = r.refusedRecord model field := by
      unfold FieldDeclaration.applyTo
      split
      · exact hDirective ..
      · rfl
    rw [List.foldl_cons, hApply, ih]

/-- Where the sibling is null or equals nothing, the saved rule is in force wherever the rule is. -/
theorem passes_of_passes_saved {now : Instant} {sibling : Option Value} {v : Value}
    (hSibling : sibling.getD .null = .null ∨ sibling.getD .null = .float .nan)
    (h : r.saved.passes now sibling v = true) : r.passes now sibling v = true := by
  have hMet {target : Value} (hNot : Verdict.conditionMet target.saved (sibling.getD .null) = false) :
      Verdict.conditionMet target (sibling.getD .null) = false :=
    Bool.eq_false_iff.mpr fun hMet => Bool.eq_false_iff.mp hNot (Value.looseEq_saved hSibling hMet)
  cases r with
  | requiredIf other target =>
    simp only [saved, passes, holds, Bool.or_eq_true, Bool.not_eq_true'] at h ⊢
    exact h.imp_left hMet
  | conditionalRange other target min max =>
    simp only [saved, passes, holds, Bool.or_eq_true, Bool.not_eq_true'] at h ⊢
    exact h.imp_left hMet
  | _ => exact h

/-- A target that is lost keeps the rule from a null sibling; what is left of it does not. -/
theorem passes_of_lost {x : Double} (hTarget : r.target? = some (.float x)) (hLost : x.isFinite = false)
    (now : Instant) :
    r.passes now (some .null) r.refused = true ∧ r.saved.passes now (some .null) r.refused = false := by
  cases r with
  | requiredIf other target =>
    obtain rfl := Option.some.inj hTarget
    constructor
    · rfl
    · simp [saved, Value.saved, hLost]
      rfl
  | conditionalRange other target min max =>
    obtain rfl := Option.some.inj hTarget
    constructor
    · rfl
    · have hBetween : Verdict.between min max .nan = false := by
        cases min.position <;> simp [Verdict.between, Double.atMost, Double.position]
      simp [saved, Value.saved, hLost]
      exact hBetween
  | _ => cases hTarget

end Rule

namespace ModelDeclaration

/-- Validators and a hook under the names that the declaration refers to, none of which finds anything. -/
def idle (d : ModelDeclaration) : ValidatorSet :=
  { validators := d.validatorNames.map fun name => (name, ⟨fun _ _ => .finished .empty⟩)
    hooks := d.hook.toList.map fun name => (name, ⟨fun _ _ => []⟩) }

theorem resolves_idle (d : ModelDeclaration) : d.Resolves d.idle where
  validator f hf w hw := by
    refine (Keyed.mem_names_iff _ _).mp ?_
    rw [idle, Keyed.names, List.map_map]
    exact List.mem_map.mpr ⟨w.name, List.mem_flatMap.mpr ⟨f, hf, List.mem_map.mpr ⟨w, hw, rfl⟩⟩, rfl⟩
  hook name hName := by
    refine (Keyed.mem_names_iff _ _).mp ?_
    rw [idle, Keyed.names, List.map_map, hName]
    exact List.mem_map.mpr ⟨name, List.mem_singleton.mpr rfl, rfl⟩

theorem Resolves.saved {d : ModelDeclaration} {validators : ValidatorSet} (h : d.Resolves validators) :
    d.saved.Resolves validators where
  validator f' hf' w hw := by
    obtain ⟨f, hf, rfl⟩ := List.mem_map.mp hf'
    exact h.validator f hf w hw
  hook := h.hook

variable {d : ModelDeclaration} (validators : ValidatorSet) (ctx : Context)

theorem constraintEntries_length_le {read : String → Value}
    (hRead : ∀ name, read name = .null ∨ read name = .float .nan) (f : FieldDeclaration) (c : Constraint) :
    (f.constraintEntries ctx read c).length ≤ (f.saved.constraintEntries ctx read c.saved).length := by
  have hSibling : (c.rule.sibling?.map read).getD .null = .null ∨
      (c.rule.sibling?.map read).getD .null = .float .nan := by
    cases c.rule.sibling? with
    | none => exact .inl rfl
    | some other => exact hRead other
  have hActive : ctx.activates c.saved = ctx.activates c := rfl
  unfold FieldDeclaration.constraintEntries
  split
  · next h =>
    simp only [Bool.and_eq_true, Bool.not_eq_true'] at h
    have hFails : c.rule.saved.passes ctx.now (c.rule.sibling?.map read) (read f.name) = false :=
      Bool.eq_false_iff.mpr fun hPasses =>
        Bool.eq_false_iff.mp h.2 (c.rule.passes_of_passes_saved hSibling hPasses)
    have hSaved : (ctx.activates c.saved && !c.saved.rule.passes ctx.now (c.saved.rule.sibling?.map read)
        (read f.saved.name)) = true := by
      rw [hActive, h.1, Bool.true_and, Bool.not_eq_true', ← hFails, Constraint.saved, c.rule.sibling?_saved]
      rfl
    rw [if_pos hSaved]
    exact Nat.le_refl 1
  · exact Nat.zero_le _

/-- Of a record with what a rule refuses, the saved declaration asks more if the target of the rule is lost. -/
theorem expectedEntries_length_lt (hAccepted : d.isAccepted = true) {f : FieldDeclaration} (hf : f ∈ d.fields)
    {c : Constraint} (hc : c ∈ f.constraints) {x : Double} (hTarget : c.rule.target? = some (.float x))
    (hLost : x.isFinite = false) (hActive : ctx.activates c = true) :
    (d.expectedEntries validators ctx (Record.read (c.rule.refusedRecord d.name f.name))).length <
      (d.saved.expectedEntries validators ctx (Record.read (c.rule.refusedRecord d.name f.name))).length := by
  -- of `read` only two things matter: its values are null or equal nothing, and the field holds what is refused
  obtain ⟨read, hRead⟩ : ∃ read, read = Record.read (c.rule.refusedRecord d.name f.name) := ⟨_, rfl⟩
  have hCases : ∀ name, read name = .null ∨ read name = .float .nan :=
    fun name => hRead ▸ c.rule.read_refusedRecord_cases d.name f.name name
  have hOwn : read f.name = c.rule.refused := by
    rw [hRead, Rule.read_refusedRecord, if_pos rfl]
  have hSibling : c.rule.sibling?.map read = some .null := by
    -- no rule of an accepted declaration has its own field as the sibling, so the record has no such field
    obtain ⟨other, hOther⟩ := Rule.sibling?_of_target? hTarget
    rw [hOther, Option.map_some, hRead, Rule.read_refusedRecord,
      if_neg (sibling_ne_name hAccepted hf hc hOther)]
  have hStrict : (f.constraintEntries ctx read c).length <
      (f.saved.constraintEntries ctx read c.saved).length := by
    obtain ⟨hPasses, hFails⟩ := c.rule.passes_of_lost hTarget hLost ctx.now
    have hNone : f.constraintEntries ctx read c = [] := by
      simp [FieldDeclaration.constraintEntries, hSibling, hOwn, hPasses]
    have hSome : f.saved.constraintEntries ctx read c.saved =
        [⟨f.name, c.saved.failureMessage f.label ctx.catalog, c.severity⟩] := by
      have hActive' : ctx.activates c.saved = true := hActive
      have hFails' : c.saved.rule.passes ctx.now (c.saved.rule.sibling?.map read) (read f.saved.name) =
          false := by
        rw [← hFails, ← hSibling, ← hOwn, ← c.rule.sibling?_saved]
        rfl
      rw [FieldDeclaration.constraintEntries, hActive', hFails']
      rfl
    rw [hNone, hSome]
    exact Nat.zero_lt_one
  have hValidators (g : FieldDeclaration) : g.saved.validators.flatMap
      (g.saved.validatorEntries validators ctx read d.name) =
        g.validators.flatMap (g.validatorEntries validators ctx read d.name) := rfl
  have hFieldLe (g : FieldDeclaration) :
      (g.constraints.flatMap (g.constraintEntries ctx read)).length ≤
        (g.saved.constraints.flatMap (g.saved.constraintEntries ctx read)).length := by
    rw [FieldDeclaration.saved, List.flatMap_map]
    exact length_flatMap_le fun k _ => constraintEntries_length_le ctx hCases g k
  have hFieldLt : (f.constraints.flatMap (f.constraintEntries ctx read)).length <
      (f.saved.constraints.flatMap (f.saved.constraintEntries ctx read)).length := by
    rw [FieldDeclaration.saved, List.flatMap_map]
    exact length_flatMap_lt (fun k _ => constraintEntries_length_le ctx hCases f k) ⟨c, hc, hStrict⟩
  rw [← hRead, expectedEntries, expectedEntries, saved, List.flatMap_map]
  refine length_flatMap_lt (fun g _ => ?_) ⟨f, hf, ?_⟩
  · simp only [FieldDeclaration.expectedEntries, List.length_append, hValidators]
    exact Nat.add_le_add_right (hFieldLe g) _
  · simp only [FieldDeclaration.expectedEntries, List.length_append, hValidators]
    exact Nat.add_lt_add_right hFieldLt _

end ModelDeclaration

namespace Engine

theorem validate_new_of_resolves {ρ : Type} [Record ρ] {d : ModelDeclaration} {validators : ValidatorSet}
    (hAccepted : d.isAccepted = true) (hResolves : d.Resolves validators) (r : ρ) (ctx : Context) :
    ((new validators).validate d r ctx).2 = .ok ((PreparedModel.ofDeclaration d validators).run r ctx) := by
  rw [validate_new, (PreparedModel.prepare_eq_ok_iff d validators _).mpr ⟨hAccepted, hResolves, rfl⟩]
  rfl

theorem exists_validate_saved_ne {d : ModelDeclaration} (hAccepted : d.isAccepted = true) {x : Double}
    (hTarget : .float x ∈ d.targets) (hLost : x.isFinite = false) :
    ∃ (validators : ValidatorSet) (r : DynamicRecord) (ctx : Context),
      ((new validators).validate d.saved r ctx).2 ≠ ((new validators).validate d r ctx).2 := by
  obtain ⟨f, hf, c, hc, hTarget⟩ := (d.mem_targets_iff _).mp hTarget
  -- the context names the group of the constraint, so that the rule takes part
  refine ⟨d.idle, c.rule.refusedRecord d.name f.name, { group := c.group }, fun hEq => ?_⟩
  have hSaved := ModelDeclaration.isAccepted_saved hAccepted
  have hActive : ({ group := c.group } : Context).activates c = true := by
    unfold Context.activates Constraint.isActive
    cases c.group <;> simp
  rw [validate_new_of_resolves hSaved d.resolves_idle.saved, validate_new_of_resolves hAccepted d.resolves_idle,
    PreparedModel.run_eq_expected hSaved, PreparedModel.run_eq_expected hAccepted] at hEq
  simp only [Rule.sanitize_refusedRecord, Except.ok.injEq, Validated.mk.injEq, Outcome.mk.injEq] at hEq
  have hEntries := congrArg List.length (List.append_cancel_right hEq.2.1)
  exact absurd hEntries (Nat.ne_of_gt
    (ModelDeclaration.expectedEntries_length_lt d.idle _ hAccepted hf hc hTarget hLost hActive))

/-- An accepted declaration whose dates have stored texts is read back from its document. What it is read as
is enforced as the declaration itself exactly if every number among its targets is finite. -/
theorem validate_saved_iff {d : ModelDeclaration} (hAccepted : d.isAccepted = true)
    (hDates : ∀ t, .date t ∈ d.targets → t.IsStorable) :
    ∃ d', ModelDeclaration.ofDocument? .entry d.toDocument = some d' ∧
      ((∀ (validators : ValidatorSet) (r : DynamicRecord) (ctx : Context),
          ((new validators).validate d' r ctx).2 = ((new validators).validate d r ctx).2) ↔
        ∀ x, .float x ∈ d.targets → x.isFinite = true) := by
  refine ⟨d.saved, ModelDeclaration.ofDocument?_toDocument_eq_saved hAccepted hDates, fun hAlike x hx => ?_,
    fun hFinite validators r ctx => by rw [ModelDeclaration.saved_eq_self hFinite]⟩
  refine Bool.not_eq_false _ |>.mp fun hLost => ?_
  obtain ⟨validators, r, ctx, hNe⟩ := exists_validate_saved_ne hAccepted hx hLost
  exact hNe (hAlike validators r ctx)

end Engine

namespace Account

/-- A note is asked for once an account is closed at the end of 2016, and at a limit. -/
def declaration (limit : Value) : ModelDeclaration :=
  { name := "Account"
    fields := [{ name := "limit", fieldType := .float }, { name := "closed", fieldType := .date },
      { name := "note"
        fieldType := .string
        constraints := [
          { rule := .requiredIf "closed" (.date { seconds := 1483228799, nanos := 1000000000 }) },
          { rule := .requiredIf "limit" limit }] }] }

def unlimited : DynamicRecord :=
  ⟨"Account", [("limit", .float (.infinite false))]⟩

end Account

namespace Engine

theorem validate_saved_iff_account :
    (Account.declaration (.float (.ofInt 10))).isAccepted = true ∧
    (∀ t, .date t ∈ (Account.declaration (.float (.ofInt 10))).targets → t.IsStorable) ∧
    ∃ d', ModelDeclaration.ofDocument? .entry (Account.declaration (.float (.ofInt 10))).toDocument = some d' ∧
      ((∀ (validators : ValidatorSet) (r : DynamicRecord) (ctx : Context),
          ((new validators).validate d' r ctx).2 =
            ((new validators).validate (Account.declaration (.float (.ofInt 10))) r ctx).2) ↔
        ∀ x, .float x ∈ (Account.declaration (.float (.ofInt 10))).targets → x.isFinite = true) := by
  have hAccepted : (Account.declaration (.float (.ofInt 10))).isAccepted = true := by decide +kernel
  have hDates : ∀ t, .date t ∈ (Account.declaration (.float (.ofInt 10))).targets → t.IsStorable := by
    intro t ht
    obtain rfl : t = { seconds := 1483228799, nanos := 1000000000 } := by
      simpa [ModelDeclaration.targets, Account.declaration, Rule.target?] using ht
    exact ⟨by decide, by decide⟩
  exact ⟨hAccepted, hDates, validate_saved_iff hAccepted hDates⟩

/-- A limit of infinity is accepted and lost: the note is no longer asked for. -/
theorem validate_saved_infinite :
    (Account.declaration (.float (.infinite false))).isAccepted = true ∧
    ModelDeclaration.ofDocument? .entry (Account.declaration (.float (.infinite false))).toDocument =
      some (Account.declaration .null) ∧
    messages ((new {}).validate (Account.declaration (.float (.infinite false))) Account.unlimited {}).2 =
      ["The note field is required when limit is inf."] ∧
    messages ((new {}).validate (Account.declaration .null) Account.unlimited {}).2 = [] := by
  decide +kernel

end Engine
end FieldRules
