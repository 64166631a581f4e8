import FieldRules.Derive.Reading
import Mathlib.Data.List.Forall2

/-!
# Readings

When a reading that is put together from others succeeds, and with what.
-/
set_option autoImplicit false

namespace FieldRules.Source

variable {α β : Type}

theorem bind_eq_ok_iff {r : Reading α} {rest : α → Reading β} {b : β} :
    r >>= rest = .ok b ↔ ∃ a, r = .ok a ∧ rest a = .ok b := by
  cases r with
  | error d => exact ⟨nofun, nofun⟩
  | ok a =>
    constructor
    · exact fun h => ⟨a, rfl, h⟩
    · rintro ⟨_, ⟨⟩, h⟩
      exact h

theorem bind_pure_eq_ok_iff {r : Reading α} {k : α → β} {b : β} :
    (do return k (← r)) = Except.ok b ↔ ∃ a, r = .ok a ∧ k a = b := by
  rw [bind_eq_ok_iff]
  exact exists_congr fun a => and_congr_right' ⟨Except.ok.inj, congrArg Except.ok⟩

theorem map_eq_ok_iff {r : Reading α} {f : α → β} {b : β} : r.map f = .ok b ↔ ∃ a, r = .ok a ∧ f a = b := by
  cases r with
  | error d => exact ⟨nofun, nofun⟩
  | ok a => exact ⟨fun h => ⟨a, rfl, Except.ok.inj h⟩, fun ⟨_, h, hb⟩ => congrArg Except.ok (Except.ok.inj h ▸ hb)⟩

theorem mapM_eq_ok_iff {read : α → Reading β} {items : List α} {values : List β} :
    items.mapM read = .ok values ↔ List.Forall₂ (fun a b => read a = .ok b) items values := by
  induction items generalizing values with
  | nil =>
    rw [List.mapM_nil]
    constructor
    · rintro ⟨⟩
      exact .nil
    · rintro ⟨⟩
      rfl
  | cons a rest ih =>
    rw [List.mapM_cons, bind_eq_ok_iff]
    constructor
    · rintro ⟨b, hHead, hTail⟩
      obtain ⟨bs, hRest, rfl⟩ := bind_pure_eq_ok_iff.mp hTail
      exact .cons hHead (ih.mp hRest)
    · rintro (_ | ⟨hHead, hRest⟩)
      exact ⟨_, hHead, bind_pure_eq_ok_iff.mpr ⟨_, ih.mpr hRest, rfl⟩⟩

theorem mapM_append_eq_ok_iff {read : α → Reading β} {first second : List α} {values : List β} :
    (first ++ second).mapM read = .ok values ↔
      ∃ us vs, first.mapM read = .ok us ∧ second.mapM read = .ok vs ∧ values = us ++ vs := by
  rw [List.mapM_append, bind_eq_ok_iff]
  refine exists_congr fun us => ?_
  rw [bind_pure_eq_ok_iff, ← exists_and_left]
  exact exists_congr fun vs => and_congr_right' (and_congr_right' eq_comm)

theorem mapM_nil_eq_ok_iff {read : α → Reading β} {values : List β} : [].mapM read = .ok values ↔ values = [] := by
  rw [mapM_eq_ok_iff, List.forall₂_nil_left_iff]

theorem mapM_singleton_eq_ok_iff {read : α → Reading β} {a : α} {values : List β} :
    [a].mapM read = .ok values ↔ ∃ b, read a = .ok b ∧ values = [b] := by
  rw [List.mapM_cons, List.mapM_nil, bind_eq_ok_iff]
  exact exists_congr fun b => and_congr_right' ⟨fun h => (Except.ok.inj h).symm, fun h => congrArg Except.ok h.symm⟩

theorem exists_mapM_iff {read : α → Reading β} {items : List α} :
    (∃ values, items.mapM read = .ok values) ↔ ∀ a ∈ items, ∃ b, read a = .ok b := by
  simp only [mapM_eq_ok_iff]
  induction items with
  | nil => exact ⟨fun _ _ h => absurd h List.not_mem_nil, fun _ => ⟨[], .nil⟩⟩
  | cons a rest ih =>
    rw [List.forall_mem_cons, ← ih]
    constructor
    · rintro ⟨_, _ | ⟨hHead, hRest⟩⟩
      exact ⟨⟨_, hHead⟩, _, hRest⟩
    · rintro ⟨⟨b, hHead⟩, values, hRest⟩
      exact ⟨b :: values, .cons hHead hRest⟩

theorem mapM_congr_iff {read : α → Reading β} {items items' : List α}
    (h : List.Forall₂ (fun a a' => ∀ b, read a = .ok b ↔ read a' = .ok b) items items') (values : List β) :
    items.mapM read = .ok values ↔ items'.mapM read = .ok values := by
  simp only [mapM_eq_ok_iff]
  induction h generalizing values with
  | nil => rfl
  | cons hHead _ ih => cases values <;> simp [hHead, ih]

/-- Where items are read like others, what is kept of the values of the ones is kept of the values of the others. -/
theorem exists_mapM_of_forall₂ {γ : Type} {R : α → α → Prop} {read : α → Reading β} (keep : β → γ)
    (hRead : ∀ a a' b, R a a' → read a = .ok b → ∃ b', read a' = .ok b' ∧ keep b' = keep b) {items items' : List α}
    (h : List.Forall₂ R items items') {values : List β} (hItems : items.mapM read = .ok values) :
    ∃ values', items'.mapM read = .ok values' ∧ values'.map keep = values.map keep := by
  simp only [mapM_eq_ok_iff] at hItems ⊢
  induction h generalizing values with
  | nil =>
    cases hItems
    exact ⟨[], .nil, rfl⟩
  | cons hHead _ ih =>
    obtain _ | ⟨hFirst, hRest⟩ := hItems
    obtain ⟨b', hb', hKeep⟩ := hRead _ _ _ hHead hFirst
    obtain ⟨values', hValues', hKeeps⟩ := ih hRest
    exact ⟨b' :: values', .cons hb' hValues', by rw [List.map_cons, List.map_cons, hKeep, hKeeps]⟩

end FieldRules.Source
