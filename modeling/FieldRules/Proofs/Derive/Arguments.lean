import FieldRules.Derive.Item
import FieldRules.Proofs.Source.Literals
import Mathlib.Data.List.Count
import Mathlib.Data.List.Nodup

/-!
# Arguments of items

Arguments are looked up by name: the first of a name counts, and what nobody looks up is left over. So a reader of
arguments finds a value under a condition on what it looks up, and leaves the rest.
-/
set_option autoImplicit false

namespace FieldRules.Derive

open Source

namespace Arguments

def names (a : Arguments) : List String :=
  a.named.map fun x => x.1.spelling

def value? (name : String) (a : Arguments) : Option Expr :=
  (a.named.find? (isCalled name)).map Prod.snd

/-- The arguments without the first one of each of some names. -/
def without (names : List String) (a : Arguments) : Arguments :=
  { a with named := names.foldl (fun rest name => rest.eraseP (isCalled name)) a.named }

/-- Reading the value under a name, if there is one, gives the result. -/
def Gives {α : Type} (a : Arguments) (name : String) (read : Expr → Reading α) (result : Option α) : Prop :=
  Option.Rel (fun e v => read e = .ok v) (a.value? name) result

variable {a : Arguments} {name : String}

theorem without_cons (name : String) (names : List String) (a : Arguments) :
    a.without (name :: names) = (a.without [name]).without names :=
  rfl

theorem without_without (first second : List String) (a : Arguments) :
    (a.without first).without second = a.without (first ++ second) := by
  simp [without]

theorem isCalled_iff {x : Ident × Expr} : isCalled name x = true ↔ x.1.spelling = name := by
  simp [isCalled]

theorem value?_without_singleton {other : String} (h : name ≠ other) (a : Arguments) :
    (a.without [other]).value? name = a.value? name := by
  obtain ⟨named, positional, flags⟩ := a
  simp only [value?, without, List.foldl_cons, List.foldl_nil]
  congr 1
  induction named with
  | nil => rfl
  | cons x rest ih =>
    by_cases hOther : isCalled other x = true
    · have hName : isCalled name x = false := by
        rw [isCalled_iff] at hOther
        simpa [isCalled, hOther] using h.symm
      rw [List.eraseP_cons_of_pos hOther, List.find?_cons_of_neg (by simp [hName])]
    · rw [List.eraseP_cons_of_neg hOther]
      simp only [List.find?_cons, ih]

theorem value?_without {names : List String} (h : name ∉ names) (a : Arguments) :
    (a.without names).value? name = a.value? name := by
  induction names generalizing a with
  | nil => rfl
  | cons other rest ih =>
    rw [List.mem_cons, not_or] at h
    rw [without_cons, ih h.2, value?_without_singleton h.1]

theorem gives_some_iff {α : Type} {read : Expr → Reading α} {v : α} :
    a.Gives name read (some v) ↔ ∃ e, a.value? name = some e ∧ read e = .ok v := by
  rw [Gives]
  cases a.value? name with
  | none => exact ⟨nofun, nofun⟩
  | some e => simp

theorem gives_without {α : Type} {read : Expr → Reading α} {result : Option α} {names : List String}
    (h : name ∉ names) : (a.without names).Gives name read result ↔ a.Gives name read result := by
  rw [Gives, Gives, value?_without h]

theorem names_without (names : List String) (a : Arguments) : (a.without names).names = a.names.diff names := by
  induction names generalizing a with
  | nil => rfl
  | cons name rest ih =>
    have hCalled : isCalled name = (name == ·) ∘ fun x : Ident × Expr => x.1.spelling :=
      funext fun x => BEq.comm (a := x.1.spelling)
    have hFirst : (a.without [name]).names = a.names.erase name := by
      rw [Arguments.names, Arguments.names, List.erase_eq_eraseP, List.eraseP_map, ← hCalled]
      rfl
    rw [without_cons, ih, hFirst, List.diff_cons]

/-- Nothing is left over exactly if no name is used twice and every name is one of those taken. -/
theorem named_without_eq_nil_iff {names : List String} (h : names.Nodup) :
    (a.without names).named = [] ↔ a.names.Nodup ∧ ∀ name ∈ a.names, name ∈ names := by
  have hEmpty : (a.without names).named = [] ↔ ∀ name, (a.names.diff names).count name = 0 := by
    rw [← List.map_eq_nil_iff, ← Arguments.names, names_without, List.eq_nil_iff_forall_not_mem]
    simp only [List.count_eq_zero]
  have hAtMostOnce (name : String) : names.count name ≤ 1 := List.nodup_iff_count_le_one.mp h name
  simp only [hEmpty, List.count_diff, Nat.sub_eq_zero_iff_le]
  constructor
  · intro hCount
    refine ⟨List.nodup_iff_count_le_one.mpr fun name => Nat.le_trans (hCount name) (hAtMostOnce name), ?_⟩
    intro name hName
    exact List.count_pos_iff.mp (Nat.lt_of_lt_of_le (List.count_pos_iff.mpr hName) (hCount name))
  · rintro ⟨hNodup, hNames⟩ name
    by_cases hName : name ∈ a.names
    · have hTaken := List.count_pos_iff.mpr (hNames name hName)
      have hOnce := List.nodup_iff_count_le_one.mp hNodup name
      omega
    · rw [List.count_eq_zero.mpr hName]
      exact Nat.zero_le _

theorem exists_of_value?_eq_some {e : Expr} (h : a.value? name = some e) :
    ∃ ident : Ident, (ident, e) ∈ a.named ∧ ident.spelling = name := by
  obtain ⟨⟨ident, _⟩, hFind, rfl⟩ := Option.map_eq_some_iff.mp h
  exact ⟨ident, List.mem_of_find?_eq_some hFind, isCalled_iff.mp (List.find?_some hFind)⟩

theorem value?_eq_some_iff (h : a.names.Nodup) {e : Expr} :
    a.value? name = some e ↔ ∃ ident : Ident, (ident, e) ∈ a.named ∧ ident.spelling = name := by
  constructor
  · exact exists_of_value?_eq_some
  · rintro ⟨ident, hMem, hName⟩
    have hCalled : isCalled name (ident, e) = true := isCalled_iff.mpr hName
    obtain ⟨x, hFind⟩ := Option.isSome_iff_exists.mp (List.find?_isSome.mpr ⟨_, hMem, hCalled⟩)
    have hSame : x.1.spelling = ident.spelling := (isCalled_iff.mp (List.find?_some hFind)).trans hName.symm
    obtain rfl := List.inj_on_of_nodup_map h (List.mem_of_find?_eq_some hFind) hMem hSame
    rw [value?, hFind]
    rfl

theorem exists_value?_iff : (∃ e, a.value? name = some e) ↔ name ∈ a.names := by
  rw [← Option.isSome_iff_exists, value?, Option.isSome_map, List.find?_isSome, Arguments.names, List.mem_map]
  simp only [isCalled_iff]

structure IsEmpty (a : Arguments) : Prop where
  named : a.named = []
  flags : a.flags = []
  positional : a.positional = []

theorem finish_eq_ok_iff (label : String) (a : Arguments) : a.finish label = .ok () ↔ a.IsEmpty := by
  obtain ⟨named, positional, flags⟩ := a
  constructor
  · intro h
    cases named with
    | cons => cases h
    | nil =>
      cases flags with
      | cons => cases h
      | nil =>
        cases positional with
        | cons => cases h
        | nil => exact ⟨rfl, rfl, rfl⟩
  · rintro ⟨rfl, rfl, rfl⟩
    rfl

end Arguments

/-- A reader finds a value exactly under a condition on the arguments, and then leaves what a function of them
leaves. -/
def Finds {α : Type} (reader : ArgumentReader α) (P : Arguments → α → Prop) (left : Arguments → Arguments) :
    Prop :=
  ∀ a v rest, reader.run a = .ok (v, rest) ↔ P a v ∧ rest = left a

namespace Finds

variable {α β : Type} {P P' : Arguments → α → Prop} {L M : Arguments → Arguments}

theorem congr {reader : ArgumentReader α} (h : Finds reader P L) (hP : ∀ a v, P a v ↔ P' a v) :
    Finds reader P' L :=
  fun a v rest => (h a v rest).trans (and_congr_left' (hP a v))

theorem pure (v : α) : Finds (pure v) (fun _ w => w = v) id := by
  intro a w rest
  rw [StateT.run_pure]
  constructor
  · rintro ⟨⟩
    exact ⟨rfl, rfl⟩
  · rintro ⟨rfl, rfl⟩
    rfl

/-- The second reader must not depend on what the first one takes. -/
theorem bind {reader : ArgumentReader α} {next : α → ArgumentReader β} {Q : α → Arguments → β → Prop}
    (h : Finds reader P L) (hNext : ∀ v, Finds (next v) (Q v) M)
    (hApart : ∀ v a w, Q v (L a) w ↔ Q v a w) :
    Finds (reader >>= next) (fun a w => ∃ v, P a v ∧ Q v a w) (M ∘ L) := by
  intro a w rest
  rw [StateT.run_bind]
  constructor
  · intro hRun
    obtain ⟨⟨v, middle⟩, hFirst, hSecond⟩ := bind_eq_ok_iff.mp hRun
    obtain ⟨hv, rfl⟩ := (h a v middle).mp hFirst
    obtain ⟨hw, rfl⟩ := (hNext v (L a) w rest).mp hSecond
    exact ⟨⟨v, hv, (hApart v a w).mp hw⟩, rfl⟩
  · rintro ⟨⟨v, hv, hw⟩, rfl⟩
    rw [(h a v (L a)).mpr ⟨hv, rfl⟩]
    exact (hNext v (L a) w _).mpr ⟨(hApart v a w).mpr hw, rfl⟩

theorem lift (reading : Reading α) : Finds (liftM reading) (fun _ v => reading = .ok v) id := by
  intro a v rest
  cases reading with
  | error d => exact ⟨nofun, nofun⟩
  | ok w =>
    constructor
    · rintro ⟨⟩
      exact ⟨rfl, rfl⟩
    · rintro ⟨⟨⟩, rfl⟩
      rfl

theorem refused (i : AttributeItem) (message : String) :
    Finds (liftM (i.unfit message : Reading α)) (fun _ _ => False) L :=
  fun _ _ _ => ⟨nofun, nofun⟩

theorem map {reader : ArgumentReader α} (h : Finds reader P L) (f : α → β) :
    Finds (do return f (← reader)) (fun a w => ∃ v, P a v ∧ w = f v) L :=
  bind (M := id) h (fun v => pure (f v)) fun _ _ _ => Iff.rfl

theorem named? (name : String) (read : Expr → Reading α) :
    Finds (AttributeItem.named? name read) (fun a v => a.Gives name read v) (Arguments.without [name]) := by
  have hTake : Finds (modifyGet (Arguments.take name)) (fun a e => a.value? name = e)
      (Arguments.without [name]) := by
    intro a e rest
    constructor
    · rintro ⟨⟩
      exact ⟨rfl, rfl⟩
    · rintro ⟨rfl, rfl⟩
      rfl
  refine congr (bind hTake (Q := fun e _ v => Option.Rel (fun e v => read e = .ok v) e v) (M := id) ?_
    fun _ _ _ => Iff.rfl) ?_
  · rintro (_ | e)
    · refine congr (pure none) fun _ v => ⟨?_, ?_⟩
      · rintro rfl
        exact .none
      · rintro ⟨⟩
        rfl
    · refine congr (map (lift (read e)) some) fun _ v => ⟨?_, ?_⟩
      · rintro ⟨x, hx, rfl⟩
        exact .some hx
      · rintro ⟨hx⟩
        exact ⟨_, hx, rfl⟩
  · intro a v
    constructor
    · rintro ⟨e, rfl, h⟩
      exact h
    · exact fun h => ⟨_, rfl, h⟩

theorem named (i : AttributeItem) (name : String) (read : Expr → Reading α) :
    Finds (i.named name read) (fun a v => a.Gives name read (some v)) (Arguments.without [name]) := by
  refine congr (bind (named? name read) (Q := fun found _ v => found = some v) (M := id) ?_
    fun _ _ _ => Iff.rfl) ?_
  · rintro (_ | v)
    · exact congr (refused i _) fun _ _ => ⟨nofun, nofun⟩
    · refine congr (pure v) fun _ w => ⟨?_, ?_⟩
      · rintro rfl
        rfl
      · rintro ⟨⟩
        rfl
  · intro a v
    exact ⟨fun ⟨_, h, hFound⟩ => hFound ▸ h, fun h => ⟨_, h, rfl⟩⟩

theorem readArguments_eq_ok_iff {reader : ArgumentReader α} (h : Finds reader P L) (i : AttributeItem) (v : α) :
    i.readArguments reader = .ok v ↔ P (.ofList i.arguments) v ∧ (L (.ofList i.arguments)).IsEmpty := by
  unfold AttributeItem.readArguments
  constructor
  · intro hRead
    obtain ⟨⟨w, rest⟩, hRun, hFinish⟩ := bind_eq_ok_iff.mp hRead
    obtain ⟨_, hEmpty, hResult⟩ := bind_eq_ok_iff.mp hFinish
    cases hResult
    obtain ⟨hv, rfl⟩ := (h _ v rest).mp hRun
    exact ⟨hv, (Arguments.finish_eq_ok_iff _ _).mp hEmpty⟩
  · rintro ⟨hv, hEmpty⟩
    have hRun := (h (.ofList i.arguments) v _).mpr ⟨hv, rfl⟩
    have hFinish := (Arguments.finish_eq_ok_iff i.label _).mpr hEmpty
    rw [hRun]
    change ((L (.ofList i.arguments)).finish i.label >>= fun _ => Pure.pure v) = .ok v
    rw [hFinish]
    rfl

end Finds

end FieldRules.Derive
