import FieldRules.Keyed
import Mathlib.Data.List.Basic
import Mathlib.Data.List.Induction

/-!
# Entries under names, changed in place

What replacing or rewriting entries does to their names, and how looking up a name relates to the entries of a
list whose names are all different. Behind a row of calls that put entries under keys, the last one on a key
decides.
-/
set_option autoImplicit false

namespace FieldRules

section Last

variable {C α ι : Type} (puts : C → Option α) (touched : C → Option ι) (key : α → ι)

/-- What one of the calls puts under its key, and no later call touches. -/
def IsLast (calls : List C) (a : α) : Prop :=
  ∃ earlier call later, calls = earlier ++ call :: later ∧ puts call = some a ∧
    ∀ c ∈ later, touched c ≠ some (key a)

theorem not_isLast_nil (a : α) : ¬ IsLast puts touched key [] a := by
  rintro ⟨earlier, call, later, hNil, -⟩
  cases earlier <;> cases hNil

theorem isLast_concat_iff (calls : List C) (call : C) (a : α) :
    IsLast puts touched key (calls ++ [call]) a ↔
      puts call = some a ∨ IsLast puts touched key calls a ∧ touched call ≠ some (key a) := by
  constructor
  · rintro ⟨earlier, c, later, hCalls, hPuts, hLater⟩
    rcases List.eq_nil_or_concat' later with rfl | ⟨later, last, rfl⟩
    · obtain ⟨-, hCall⟩ := List.append_inj' hCalls rfl
      obtain rfl := List.singleton_inj.mp hCall
      exact .inl hPuts
    · rw [← List.cons_append, ← List.append_assoc] at hCalls
      obtain ⟨rfl, hCall⟩ := List.append_inj' hCalls rfl
      obtain rfl := List.singleton_inj.mp hCall
      refine .inr ⟨⟨earlier, c, later, rfl, hPuts, ?_⟩, ?_⟩
      · intro c' hc'
        exact hLater c' (List.mem_append_left _ hc')
      · exact hLater call (List.mem_append_right _ (List.mem_singleton_self call))
  · rintro (hPuts | ⟨⟨earlier, c, later, rfl, hPuts, hLater⟩, hCall⟩)
    · exact ⟨calls, call, [], rfl, hPuts, fun _ h => absurd h List.not_mem_nil⟩
    · refine ⟨earlier, c, later ++ [call], by simp, hPuts, ?_⟩
      intro c' hc'
      rcases List.mem_append.mp hc' with hc' | hc'
      · exact hLater c' hc'
      · obtain rfl := List.mem_singleton.mp hc'
        exact hCall

end Last

namespace Keyed

variable {α β : Type}

theorem names_insert_of_get? {entries : Keyed α} {name : String} {a : α} (h : entries.get? name = some a)
    (b : α) : (entries.insert name b).names = entries.names := by
  induction entries with
  | nil => cases h
  | cons e rest ih =>
    by_cases hName : e.1 = name
    · simp [insert, names, hName]
    · have hRest : names (insert rest name b) = names rest := ih (by simpa [get?, hName] using h)
      simpa [insert, names, hName] using hRest

theorem filter_insert (entries : Keyed α) (p : String → Bool) {name : String} (h : p name = false) (a : α) :
    (entries.insert name a).filter (fun e => p e.1) = entries.filter fun e => p e.1 := by
  induction entries with
  | nil => simp [insert, h]
  | cons e rest ih =>
    by_cases hName : e.1 = name
    · subst hName
      simp [insert, h]
    · simp [insert, hName, List.filter_cons, ih]

/-- Of two entries that are there it does not matter which is replaced first. -/
theorem insert_comm_of_get? {entries : Keyed α} {name other : String} (hNe : name ≠ other) {a b : α}
    (hName : entries.get? name = some a) (hOther : entries.get? other = some b) (a' b' : α) :
    (entries.insert name a').insert other b' = (entries.insert other b').insert name a' := by
  induction entries with
  | nil => cases hName
  | cons e rest ih =>
    by_cases hFirst : e.1 = name
    · subst hFirst
      simp [insert, hNe]
    · by_cases hSecond : e.1 = other
      · subst hSecond
        simp [insert, hFirst]
      · have hRest := ih (by simpa [get?, hFirst] using hName) (by simpa [get?, hSecond] using hOther)
        simp [insert, hFirst, hSecond, hRest]

theorem names_map (entries : Keyed α) (g : String → α → β) :
    names (entries.map fun e => (e.1, g e.1 e.2)) = entries.names := by
  simp [names, Function.comp_def]

theorem get?_map (entries : Keyed α) (g : String → α → β) (name : String) :
    get? (entries.map fun e => (e.1, g e.1 e.2)) name = (entries.get? name).map (g name) := by
  induction entries with
  | nil => rfl
  | cons e rest ih =>
    by_cases hName : e.1 = name
    · simp [get?, hName]
    · simp [get?, hName, ih]

theorem mem_of_get? {entries : Keyed α} {name : String} {a : α} (h : entries.get? name = some a) :
    (name, a) ∈ entries := by
  induction entries with
  | nil => cases h
  | cons e rest ih =>
    by_cases hName : e.1 = name
    · have hValue : e.2 = a := by simpa [get?, hName] using h
      exact List.mem_cons.mpr (.inl (Prod.ext hName.symm hValue.symm))
    · exact List.mem_cons_of_mem e (ih (by simpa [get?, hName] using h))

/-- Under different names no entry hides another. -/
theorem get?_of_mem {entries : Keyed α} (hNodup : entries.names.Nodup) {name : String} {a : α}
    (h : (name, a) ∈ entries) : entries.get? name = some a := by
  induction entries with
  | nil => cases h
  | cons e rest ih =>
    obtain ⟨hFresh, hNodup⟩ := List.nodup_cons.mp hNodup
    rcases List.mem_cons.mp h with rfl | hRest
    · simp [get?]
    · have hName : e.1 ≠ name := by
        intro hEq
        exact hFresh (hEq ▸ List.mem_map.mpr ⟨(name, a), hRest, rfl⟩)
      simpa [get?, hName] using ih hNodup hRest

theorem mem_names_iff (entries : Keyed α) (name : String) :
    name ∈ entries.names ↔ ∃ a, entries.get? name = some a := by
  induction entries with
  | nil => simp [names, get?]
  | cons e rest ih =>
    by_cases hName : e.1 = name
    · simp [names, get?, hName]
    · unfold names at ih ⊢
      simp [get?, hName, Ne.symm hName, ih]

theorem nodup_names_insert {entries : Keyed α} (h : entries.names.Nodup) (name : String) (a : α) :
    (entries.insert name a).names.Nodup := by
  induction entries with
  | nil => exact List.pairwise_singleton _ name
  | cons e rest ih =>
    obtain ⟨hFresh, hRest⟩ := List.nodup_cons.mp h
    by_cases hName : e.1 = name
    · simpa [insert, names, hName] using h
    · have hOthers : e.1 ∉ (insert rest name a).names := by
        rw [mem_names_iff, get?_insert, if_neg (Ne.symm hName), ← mem_names_iff]
        exact hFresh
      simpa [insert, names, hName] using List.nodup_cons.mpr ⟨hOthers, ih hRest⟩

theorem nodup_names_erase {entries : Keyed α} (h : entries.names.Nodup) (name : String) :
    (entries.erase name).names.Nodup :=
  h.sublist (List.filter_sublist.map Prod.fst)

section Calls

variable {C : Type} (puts : C → Option (String × α))

/-- The entries behind calls of which each puts one under a name, or does nothing. -/
def ofCalls (calls : List C) : Keyed α :=
  calls.foldl (fun entries call => (puts call).elim entries fun e => entries.insert e.1 e.2) []

theorem ofCalls_concat (calls : List C) (call : C) : ofCalls puts (calls ++ [call]) =
    (puts call).elim (ofCalls puts calls) fun e => (ofCalls puts calls).insert e.1 e.2 :=
  List.foldl_concat ..

theorem get?_ofCalls_iff (calls : List C) (name : String) (a : α) : (ofCalls puts calls).get? name = some a ↔
    IsLast puts (fun call => (puts call).map Prod.fst) Prod.fst calls (name, a) := by
  induction calls using List.reverseRecOn with
  | nil => exact iff_of_false nofun (not_isLast_nil _ _ _ _)
  | append_singleton calls call ih =>
    rw [isLast_concat_iff, ← ih, ofCalls_concat]
    cases puts call with
    | none => simp
    | some e =>
      obtain ⟨n, b⟩ := e
      by_cases hName : n = name <;> simp [hName]

theorem exists_get?_ofCalls_iff (calls : List C) (name : String) :
    (∃ a, (ofCalls puts calls).get? name = some a) ↔ ∃ call ∈ calls, ∃ a, puts call = some (name, a) := by
  induction calls using List.reverseRecOn with
  | nil => simp [ofCalls, get?]
  | append_singleton calls call ih =>
    simp only [ofCalls_concat, List.mem_append, List.mem_singleton, or_and_right, exists_or, exists_eq_left, ← ih]
    cases puts call with
    | none => simp
    | some e =>
      obtain ⟨n, b⟩ := e
      by_cases hName : n = name <;> simp [hName]

end Calls

end Keyed
end FieldRules
