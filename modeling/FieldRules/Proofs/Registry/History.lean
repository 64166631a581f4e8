import FieldRules.Registry
import FieldRules.Proofs.Engine.Kept
import FieldRules.Proofs.Keyed
import Mathlib.Data.Set.Card

/-!
# Registries after calls

Whatever was called on a registry, its entries are the registrations that no later call on the same type, or under
the same name, replaced or removed. Every answer of the registry is told by these, and a call changes nothing about
other types and names.
-/
set_option autoImplicit false

namespace FieldRules

variable {κ : Type} {Carrier : κ → Type}

inductive RegistryCall {κ : Type} (Carrier : κ → Type) where
  | validator (k : κ) (model : String) (v : Validator (Carrier k))
  | generated (k : κ) [Validate (Carrier k)]
  | interpreted (e : Engine) (k : κ) [Record (Carrier k)] (d : ModelDeclaration)
  | named (m : PreparedModel)
  | unregister (k : κ)
  | unregisterNamed (model : String)

namespace RegistryCall

/-- The typed entry that a call registers; a declaration that is rejected registers none. -/
def typed? : RegistryCall Carrier → Option (TypedEntry Carrier)
  | validator k model v => some ⟨k, model, v⟩
  | generated k => some ⟨k, (Validate.declaration (Carrier k)).name, .generated _⟩
  | interpreted e k d => (e.prepare d).2.toOption.map fun m => ⟨k, d.name, .interpreted m⟩
  | _ => none

def named? : RegistryCall Carrier → Option PreparedModel
  | named m => some m
  | _ => none

def key? : RegistryCall Carrier → Option κ
  | unregister k => some k
  | call => call.typed?.map TypedEntry.key

def name? : RegistryCall Carrier → Option String
  | unregisterNamed model => some model
  | call => call.named?.map fun m => m.plan.model

theorem key?_of_typed? {call : RegistryCall Carrier} {t : TypedEntry Carrier} (h : call.typed? = some t) :
    call.key? = some t.key := by
  cases call with
  | unregister k => cases h
  | validator | generated | interpreted | named | unregisterNamed =>
    exact congrArg (Option.map TypedEntry.key) h

theorem name?_of_named? {call : RegistryCall Carrier} {m : PreparedModel} (h : call.named? = some m) :
    call.name? = some m.plan.model := by
  cases call with
  | unregisterNamed model => cases h
  | validator | generated | interpreted | named | unregister =>
    exact congrArg (Option.map fun m => m.plan.model) h

end RegistryCall

/-- The typed entries that some calls leave: the last one on its type registers it. -/
def Live (calls : List (RegistryCall Carrier)) : TypedEntry Carrier → Prop :=
  IsLast RegistryCall.typed? RegistryCall.key? TypedEntry.key calls

def LiveNamed (calls : List (RegistryCall Carrier)) : PreparedModel → Prop :=
  IsLast RegistryCall.named? RegistryCall.name? (fun m => m.plan.model) calls

namespace Registry

section Names

variable (name : String) (names : List String)

theorem mem_insertName_iff (n : String) : n ∈ insertName name names ↔ n = name ∨ n ∈ names := by
  induction names with
  | nil => simp [insertName]
  | cons first rest ih =>
    rw [insertName]
    split
    · simp
    · split
      · next hEq => simp [hEq]
      · rw [List.mem_cons, ih, List.mem_cons]
        exact or_left_comm

variable {names}

theorem pairwise_insertName (h : names.Pairwise (· < ·)) : (insertName name names).Pairwise (· < ·) := by
  induction names with
  | nil => exact List.pairwise_singleton _ name
  | cons first rest ih =>
    obtain ⟨hFirst, hRest⟩ := List.pairwise_cons.mp h
    rw [insertName]
    split
    · next hLt =>
      refine List.pairwise_cons.mpr ⟨?_, h⟩
      intro n hn
      rcases List.mem_cons.mp hn with rfl | hn
      · exact hLt
      · exact String.lt_trans hLt (hFirst n hn)
    · next hLe =>
      split
      · exact h
      · next hNe =>
        refine List.pairwise_cons.mpr ⟨?_, ih hRest⟩
        intro n hn
        rcases (mem_insertName_iff name rest n).mp hn with rfl | hn
        · apply Decidable.byContradiction
          intro hGe
          exact hNe (String.le_antisymm (String.not_lt.mp hGe) (String.not_lt.mp hLe))
        · exact hFirst n hn

theorem foldl_insertName (added : List String) (h : names.Pairwise (· < ·)) :
    (added.foldl (fun names n => insertName n names) names).Pairwise (· < ·) ∧
      ∀ n, n ∈ added.foldl (fun names n => insertName n names) names ↔ n ∈ names ∨ n ∈ added := by
  induction added generalizing names with
  | nil => exact ⟨h, fun n => by simp⟩
  | cons first rest ih =>
    obtain ⟨hSorted, hMem⟩ := ih (pairwise_insertName first h)
    refine ⟨hSorted, fun n => ?_⟩
    rw [List.foldl_cons, hMem, mem_insertName_iff, List.mem_cons, or_comm (a := n = first), or_assoc]

end Names

variable [DecidableEq κ]

def after (r : Registry Carrier) : RegistryCall Carrier → Registry Carrier
  | .validator k model v => r.registerValidator k model v
  | @RegistryCall.generated _ _ k _ => r.registerGenerated k
  | @RegistryCall.interpreted _ _ e k _ d => (r.registerInterpreted e k d).2.toOption.getD r
  | .named m => r.registerNamed m
  | .unregister k => (r.unregister k).1
  | .unregisterNamed model => (r.unregisterNamed model).1

def afterAll (r : Registry Carrier) (calls : List (RegistryCall Carrier)) : Registry Carrier :=
  calls.foldl after r

section Steps

variable (r : Registry Carrier)

theorem registerInterpreted_snd (e : Engine) (k : κ) [Record (Carrier k)] (d : ModelDeclaration) :
    (r.registerInterpreted e k d).2 =
      (e.prepare d).2.map fun m => r.registerValidator k d.name (.interpreted m) :=
  rfl

theorem typed_registerValidator (k : κ) (model : String) (v : Validator (Carrier k)) :
    (r.registerValidator k model v).typed = ⟨k, model, v⟩ :: r.typed.filter fun t => k ≠ t.key := by
  simp only [registerValidator, ne_comm]

theorem typed_unregister (k : κ) : (r.unregister k).1.typed = r.typed.filter fun t => k ≠ t.key := by
  simp only [unregister, ne_comm]

theorem typed_after (call : RegistryCall Carrier) :
    (r.after call).typed = call.typed?.toList ++ r.typed.filter fun t => call.key? ≠ some t.key := by
  cases call with
  | validator k model v =>
    rw [after, typed_registerValidator]
    simp [RegistryCall.typed?, RegistryCall.key?]
  | generated k =>
    rw [after, registerGenerated, typed_registerValidator]
    simp [RegistryCall.typed?, RegistryCall.key?]
  | interpreted e k d =>
    rw [after, registerInterpreted_snd]
    cases hPrepared : (e.prepare d).2 with
    | ok m =>
      have hAfter := typed_registerValidator r k d.name (Validator.interpreted m)
      simp [Except.map, Except.toOption, RegistryCall.typed?, RegistryCall.key?, hPrepared, hAfter]
    | error errors =>
      simp [Except.map, Except.toOption, RegistryCall.typed?, RegistryCall.key?, hPrepared]
  | unregister k =>
    rw [after, typed_unregister]
    simp [RegistryCall.typed?, RegistryCall.key?]
  | named m => simp [after, registerNamed, RegistryCall.typed?, RegistryCall.key?]
  | unregisterNamed model => simp [after, unregisterNamed, RegistryCall.typed?, RegistryCall.key?]

theorem named_after (call : RegistryCall Carrier) :
    (r.after call).named =
      match call with
      | .named m => r.named.insert m.plan.model m
      | .unregisterNamed model => r.named.erase model
      | _ => r.named := by
  cases call with
  | interpreted e k d =>
    rw [after, registerInterpreted_snd]
    cases (e.prepare d).2 <;> rfl
  | validator | generated | named | unregister | unregisterNamed => rfl

theorem lookupNamed?_after_iff (call : RegistryCall Carrier) (name : String) (m : PreparedModel) :
    (r.after call).lookupNamed? name = some m ↔
      call.named? = some m ∧ m.plan.model = name ∨ r.lookupNamed? name = some m ∧ call.name? ≠ some name := by
  rw [lookupNamed?, lookupNamed?, named_after]
  cases call with
  | named new =>
    rw [Keyed.get?_insert]
    by_cases hName : new.plan.model = name
    · rw [if_pos hName]
      constructor
      · intro hEq
        exact .inl ⟨hEq, Option.some.inj hEq ▸ hName⟩
      · rintro (⟨hEq, -⟩ | ⟨-, hOther⟩)
        · exact hEq
        · exact absurd (congrArg some hName) hOther
    · rw [if_neg hName]
      constructor
      · intro hFound
        exact .inr ⟨hFound, fun hEq => hName (Option.some.inj hEq)⟩
      · rintro (⟨hEq, hModel⟩ | ⟨hFound, -⟩)
        · exact absurd (Option.some.inj hEq ▸ hModel) hName
        · exact hFound
  | unregisterNamed model =>
    rw [Keyed.get?_erase]
    by_cases hName : model = name
    · simp [RegistryCall.named?, RegistryCall.name?, hName]
    · simp [RegistryCall.named?, RegistryCall.name?, hName]
  | validator | generated | interpreted | unregister => simp [RegistryCall.named?, RegistryCall.name?]

theorem nodup_typed_after (h : (r.typed.map TypedEntry.key).Nodup) (call : RegistryCall Carrier) :
    ((r.after call).typed.map TypedEntry.key).Nodup := by
  rw [typed_after]
  have hRest : ((r.typed.filter fun t => call.key? ≠ some t.key).map TypedEntry.key).Nodup :=
    h.sublist (List.filter_sublist.map TypedEntry.key)
  cases hTyped : call.typed? with
  | none => exact hRest
  | some t =>
    refine List.nodup_cons.mpr ⟨?_, hRest⟩
    intro hKey
    obtain ⟨u, hu, hEq⟩ := List.mem_map.mp hKey
    have hOther : call.key? ≠ some u.key := by simpa using (List.mem_filter.mp hu).2
    exact hOther (hEq ▸ RegistryCall.key?_of_typed? hTyped)

theorem nodup_named_after (h : r.named.names.Nodup) (call : RegistryCall Carrier) :
    (r.after call).named.names.Nodup := by
  rw [named_after]
  split
  · exact Keyed.nodup_names_insert h _ _
  · exact Keyed.nodup_names_erase h _
  · exact h

end Steps

theorem afterAll_concat (r : Registry Carrier) (calls : List (RegistryCall Carrier))
    (call : RegistryCall Carrier) : r.afterAll (calls ++ [call]) = (r.afterAll calls).after call :=
  List.foldl_concat ..

/-- The entries of a registry are those that the calls on it leave, each once. -/
structure Holds (r : Registry Carrier) (calls : List (RegistryCall Carrier)) : Prop where
  nodup_typed : (r.typed.map TypedEntry.key).Nodup
  nodup_named : r.named.names.Nodup
  mem_typed_iff : ∀ t, t ∈ r.typed ↔ Live calls t
  lookupNamed_iff : ∀ name m, r.lookupNamed? name = some m ↔ LiveNamed calls m ∧ m.plan.model = name

theorem holds_afterAll (calls : List (RegistryCall Carrier)) :
    ((empty : Registry Carrier).afterAll calls).Holds calls := by
  induction calls using List.reverseRecOn with
  | nil =>
    refine ⟨List.nodup_nil, List.nodup_nil, fun t => ?_, fun name m => ?_⟩
    · exact iff_of_false List.not_mem_nil (fun hLive => not_isLast_nil _ _ _ t hLive)
    · exact iff_of_false nofun fun hLive => not_isLast_nil _ _ _ m hLive.1
  | append_singleton calls call ih =>
    rw [afterAll_concat]
    refine ⟨nodup_typed_after _ ih.nodup_typed call, nodup_named_after _ ih.nodup_named call, ?_, ?_⟩
    · intro t
      rw [typed_after, List.mem_append, List.mem_filter, ih.mem_typed_iff, Live, Live, isLast_concat_iff]
      simp
    · intro name m
      rw [lookupNamed?_after_iff, ih.lookupNamed_iff, LiveNamed, LiveNamed, isLast_concat_iff]
      constructor
      · rintro (⟨hNamed, hName⟩ | ⟨⟨hLive, hName⟩, hOther⟩)
        · exact ⟨.inl hNamed, hName⟩
        · exact ⟨.inr ⟨hLive, hName ▸ hOther⟩, hName⟩
      · rintro ⟨hNamed | ⟨hLive, hOther⟩, hName⟩
        · exact .inl ⟨hNamed, hName⟩
        · exact .inr ⟨⟨hLive, hName⟩, hName ▸ hOther⟩

section Answers

variable {r : Registry Carrier}

theorem lookup?_eq_some_iff (h : (r.typed.map TypedEntry.key).Nodup) (k : κ) (v : Validator (Carrier k)) :
    r.lookup? k = some v ↔ ∃ model, ⟨k, model, v⟩ ∈ r.typed := by
  unfold lookup?
  revert h
  induction r.typed with
  | nil => simp
  | cons t rest ih =>
    intro h
    obtain ⟨hFresh, hRest⟩ := List.nodup_cons.mp h
    obtain ⟨key, first, u⟩ := t
    rw [List.findSome?_cons]
    by_cases hKey : key = k
    · subst hKey
      simp only [dite_true, Option.some.injEq, List.mem_cons]
      constructor
      · rintro rfl
        exact ⟨first, .inl rfl⟩
      · rintro ⟨model, hFirst | hLater⟩
        · cases hFirst
          rfl
        · exact absurd (List.mem_map_of_mem hLater) hFresh
    · simp only [dif_neg hKey, ih hRest, List.mem_cons]
      refine exists_congr fun model => ⟨.inr, ?_⟩
      rintro (hFirst | hLater)
      · cases hFirst
        exact absurd rfl hKey
      · exact hLater

theorem contains_iff (k : κ) : r.contains k = true ↔ ∃ t ∈ r.typed, t.key = k := by
  simp [contains]

theorem lookup?_after_of_ne (h : (r.typed.map TypedEntry.key).Nodup) {call : RegistryCall Carrier} {k : κ}
    (hKey : call.key? ≠ some k) : (r.after call).lookup? k = r.lookup? k := by
  apply Option.ext
  intro v
  rw [lookup?_eq_some_iff (nodup_typed_after r h call), lookup?_eq_some_iff h]
  refine exists_congr fun model => ?_
  rw [typed_after, List.mem_append, List.mem_filter]
  constructor
  · rintro (hTyped | ⟨hMem, -⟩)
    · exact absurd (RegistryCall.key?_of_typed? (Option.mem_toList.mp hTyped)) hKey
    · exact hMem
  · intro hMem
    exact .inr ⟨hMem, by simpa using hKey⟩

theorem lookupNamed?_after_of_ne {call : RegistryCall Carrier} {name : String} (hName : call.name? ≠ some name) :
    (r.after call).lookupNamed? name = r.lookupNamed? name := by
  apply Option.ext
  intro m
  rw [lookupNamed?_after_iff]
  constructor
  · rintro (⟨hNamed, rfl⟩ | ⟨hFound, -⟩)
    · exact absurd (RegistryCall.name?_of_named? hNamed) hName
    · exact hFound
  · intro hFound
    exact .inr ⟨hFound, hName⟩

omit [DecidableEq κ] in
theorem modelNames_spec (r : Registry Carrier) : r.modelNames.Pairwise (· < ·) ∧
    ∀ name, name ∈ r.modelNames ↔ (∃ t ∈ r.typed, t.model = name) ∨ ∃ m, r.lookupNamed? name = some m := by
  obtain ⟨hSorted, hMem⟩ := foldl_insertName (r.typed.map TypedEntry.model ++ r.named.names) List.Pairwise.nil
  refine ⟨hSorted, fun name => ?_⟩
  rw [modelNames, hMem, List.mem_append, List.mem_map, Keyed.mem_names_iff]
  simp [lookupNamed?]

theorem encard_mem {α : Type} {as : List α} (h : as.Nodup) : {a | a ∈ as}.encard = as.length := by
  classical
  rw [← List.coe_toFinset, Set.encard_coe_eq_coe_finsetCard, List.toFinset_card_of_nodup h]

variable {calls : List (RegistryCall Carrier)} (h : r.Holds calls)

include h

omit [DecidableEq κ] in
theorem Holds.encard_live : {t | Live calls t}.encard = r.typed.length := by
  rw [← encard_mem h.nodup_typed.of_map]
  simp only [h.mem_typed_iff]

omit [DecidableEq κ] in
theorem Holds.mem_named_iff (e : String × PreparedModel) :
    e ∈ r.named ↔ LiveNamed calls e.2 ∧ e.2.plan.model = e.1 := by
  rw [← h.lookupNamed_iff]
  exact ⟨Keyed.get?_of_mem h.nodup_named, Keyed.mem_of_get?⟩

omit [DecidableEq κ] in
theorem Holds.encard_liveNamed : {m | LiveNamed calls m}.encard = r.named.length := by
  have hNames : (r.named.map Prod.snd).map (fun m => m.plan.model) = r.named.names := by
    rw [List.map_map]
    refine List.map_congr_left fun e he => ((h.mem_named_iff e).mp he).2
  have hNodup : (r.named.map Prod.snd).Nodup := by
    apply List.Nodup.of_map
    rw [hNames]
    exact h.nodup_named
  rw [← List.length_map (f := Prod.snd), ← encard_mem hNodup]
  congr 1
  ext m
  rw [Set.mem_ofPred_eq, Set.mem_ofPred_eq, List.mem_map]
  constructor
  · intro hLive
    exact ⟨(m.plan.model, m), (h.mem_named_iff _).mpr ⟨hLive, rfl⟩, rfl⟩
  · rintro ⟨e, he, rfl⟩
    exact ((h.mem_named_iff e).mp he).1

end Answers

/-- What a registry answers after some calls on it, told by the entries that the calls leave. -/
structure Reflects (r : Registry Carrier) (calls : List (RegistryCall Carrier)) : Prop where
  lookup_iff : ∀ k v, r.lookup? k = some v ↔ ∃ model, Live calls ⟨k, model, v⟩
  originOf_iff : ∀ k origin,
    r.originOf? k = some origin ↔ ∃ model v, Live calls ⟨k, model, v⟩ ∧ v.origin = origin
  contains_iff : ∀ k, r.contains k = true ↔ ∃ t, Live calls t ∧ t.key = k
  lookupNamed_iff : ∀ name m, r.lookupNamed? name = some m ↔ LiveNamed calls m ∧ m.plan.model = name
  lookup_other : ∀ call k, call.key? ≠ some k → (r.after call).lookup? k = r.lookup? k
  lookupNamed_other : ∀ call name, call.name? ≠ some name →
    (r.after call).lookupNamed? name = r.lookupNamed? name
  rejected : ∀ (e : Engine) (k : κ) [Record (Carrier k)] d errors, (e.prepare d).2 = .error errors →
    (r.registerInterpreted e k d).2 = .error errors ∧ r.after (.interpreted e k d) = r
  size_eq : (r.size : ℕ∞) = {t | Live calls t}.encard + {m | LiveNamed calls m}.encard
  modelNames_sorted : r.modelNames.Pairwise (· < ·)
  mem_modelNames_iff : ∀ name, name ∈ r.modelNames ↔
    (∃ t, Live calls t ∧ t.model = name) ∨ ∃ m, LiveNamed calls m ∧ m.plan.model = name
  validateNamed_ok : ∀ {ρ : Type} [Record ρ] (record : ρ) ctx m, LiveNamed calls m →
    m.plan.model = Record.modelName record → r.validateNamed record ctx = .ok (m.run record ctx)
  validateNamed_error_iff : ∀ {ρ : Type} [Record ρ] (record : ρ) ctx,
    r.validateNamed record ctx = .error ⟨Record.modelName record⟩ ↔
      ∀ m, LiveNamed calls m → m.plan.model ≠ Record.modelName record
  validateNamed_kept : ∀ {ρ : Type} [Record ρ] (record : ρ) ctx error,
    r.validateNamed record ctx = .error error →
      error = ⟨Record.modelName record⟩ ∧ recordLeft record (r.validateNamed record ctx) = record

theorem Holds.reflects {r : Registry Carrier} {calls : List (RegistryCall Carrier)} (h : r.Holds calls) :
    r.Reflects calls := by
  have hLookup := lookup?_eq_some_iff h.nodup_typed
  obtain ⟨hSorted, hNames⟩ := modelNames_spec r
  constructor
  case lookup_iff =>
    intro k v
    simp only [hLookup, h.mem_typed_iff]
  case originOf_iff =>
    intro k origin
    simp only [originOf?, Option.map_eq_some_iff, hLookup, h.mem_typed_iff]
    constructor
    · rintro ⟨v, ⟨model, hLive⟩, hOrigin⟩
      exact ⟨model, v, hLive, hOrigin⟩
    · rintro ⟨model, v, hLive, hOrigin⟩
      exact ⟨v, ⟨model, hLive⟩, hOrigin⟩
  case contains_iff =>
    intro k
    simp only [contains_iff, h.mem_typed_iff]
  case lookupNamed_iff => exact h.lookupNamed_iff
  case lookup_other =>
    intro call k hKey
    exact lookup?_after_of_ne h.nodup_typed hKey
  case lookupNamed_other =>
    intro call name hName
    exact lookupNamed?_after_of_ne hName
  case rejected =>
    intro e k _ d errors hPrepared
    have hAnswer : (r.registerInterpreted e k d).2 = .error errors := by
      rw [registerInterpreted_snd, hPrepared]
      rfl
    refine ⟨hAnswer, ?_⟩
    rw [after, hAnswer]
    rfl
  case size_eq => rw [h.encard_live, h.encard_liveNamed, size, Nat.cast_add]
  case modelNames_sorted => exact hSorted
  case mem_modelNames_iff =>
    intro name
    simp only [hNames, h.mem_typed_iff, h.lookupNamed_iff]
  case validateNamed_ok =>
    intro ρ _ record ctx m hLive hModel
    rw [validateNamed, (h.lookupNamed_iff _ m).mpr ⟨hLive, hModel⟩]
  case validateNamed_error_iff =>
    intro ρ _ record ctx
    cases hFound : r.lookupNamed? (Record.modelName record) with
    | none =>
      refine iff_of_true (by rw [validateNamed, hFound]) fun m hLive hModel => ?_
      cases hFound.symm.trans ((h.lookupNamed_iff _ m).mpr ⟨hLive, hModel⟩)
    | some m =>
      obtain ⟨hLive, hModel⟩ := (h.lookupNamed_iff _ m).mp hFound
      refine iff_of_false (fun hError => ?_) fun hNone => hNone m hLive hModel
      rw [validateNamed, hFound] at hError
      cases hError
  case validateNamed_kept =>
    intro ρ _ record ctx error hError
    refine ⟨?_, by rw [hError]; rfl⟩
    unfold validateNamed at hError
    split at hError
    · cases hError
    · exact (Except.error.inj hError).symm

/-- Whatever is called on a new registry, it answers as the last writer of each type and name. -/
theorem reflects_afterAll (calls : List (RegistryCall Carrier)) :
    ((empty : Registry Carrier).afterAll calls).Reflects calls :=
  (holds_afterAll calls).reflects

end Registry
end FieldRules
