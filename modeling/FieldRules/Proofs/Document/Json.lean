import FieldRules.Proofs.Document.Members
import FieldRules.Proofs.Double.Rounding
import FieldRules.Proofs.Value.Views

/-!
# Trees of JSON

The trees that a JSON text can hold, and what readers of structures find in them. Such a tree has no words or
tags, so it is its own meaning.
-/
set_option autoImplicit false

namespace FieldRules

namespace Document

mutual

/-- Whether JSON has the tree: numbers are finite, integers have 64 bits with or without a sign, and 64 bits
count the items of a list. -/
def isJson : Document → Bool
  | null => true
  | bool _ => true
  | int i => (IntKind.signed 64).holds i || (IntKind.unsigned 64).holds i
  | float x => x.isFinite
  | text _ => true
  | list items => decide (items.length ≤ UInt64.size) && isJsonItems items
  | map entries => isJsonEntries entries
  | word _ _ => false
  | tagged _ _ => false
  | irregular => false

def isJsonItems : List Document → Bool
  | [] => true
  | d :: rest => d.isJson && isJsonItems rest

def isJsonEntries : List (String × Document) → Bool
  | [] => true
  | (_, d) :: rest => d.isJson && isJsonEntries rest

end

variable {α : Type} {d : Document}

theorem isJsonItems_iff (items : List Document) : isJsonItems items = true ↔ ∀ d ∈ items, d.isJson = true := by
  induction items with
  | nil => simp [isJsonItems]
  | cons d items ih => simp [isJsonItems, ih]

theorem isJsonEntries_iff (entries : List (String × Document)) :
    isJsonEntries entries = true ↔ ∀ e ∈ entries, e.2.isJson = true := by
  induction entries with
  | nil => simp [isJsonEntries]
  | cons e entries ih => simp [isJsonEntries, ih]

mutual

theorem resolved?_of_isJson (d : Document) (h : d.isJson = true) : d.resolved? = some d := by
  cases d with
  | null | bool | int | float | text => rfl
  | list items =>
    have hItems := (Bool.and_eq_true_iff.mp h).2
    rw [resolved?, resolvedItems?_of_isJson items hItems, Option.map_some]
  | map entries => rw [resolved?, resolvedEntries?_of_isJson entries h, Option.map_some]
  | word | tagged | irregular => cases h

theorem resolvedItems?_of_isJson (items : List Document) (h : isJsonItems items = true) :
    resolvedItems? items = some items := by
  cases items with
  | nil => rfl
  | cons d rest =>
    obtain ⟨hFirst, hRest⟩ := Bool.and_eq_true_iff.mp h
    simp [resolvedItems?, resolved?_of_isJson d hFirst, resolvedItems?_of_isJson rest hRest]

theorem resolvedEntries?_of_isJson (entries : List (String × Document)) (h : isJsonEntries entries = true) :
    resolvedEntries? entries = some entries := by
  cases entries with
  | nil => rfl
  | cons e rest =>
    obtain ⟨hFirst, hRest⟩ := Bool.and_eq_true_iff.mp h
    simp [resolvedEntries?, resolved?_of_isJson e.2 hFirst, resolvedEntries?_of_isJson rest hRest]

end

theorem meaning_of_isJson (h : d.isJson = true) : d.meaning = d := by
  cases d with
  | word => cases h
  | _ => rfl

theorem untagged_of_isJson (h : d.isJson = true) : d.untagged = d := by
  cases d with
  | tagged => cases h
  | _ => rfl

theorem natAbs_le_of_isJson {i : Int} (h : (int i).isJson = true) : i.natAbs ≤ 2 ^ 64 := by
  obtain h | h := Bool.or_eq_true_iff.mp h
  · obtain ⟨hLow, hHigh⟩ := (IntKind.holds_iff (.signed 64) i).mp h
    change -2 ^ 63 ≤ i at hLow
    change i ≤ 2 ^ 63 - 1 at hHigh
    omega
  · obtain ⟨hLow, hHigh⟩ := (IntKind.holds_iff (.unsigned 64) i).mp h
    change 0 ≤ i at hLow
    change i ≤ 2 ^ 64 - 1 at hHigh
    omega

theorem isFinite_of_double? {x : Double} (h : d.isJson = true) (hRead : d.double? = some x) :
    x.isFinite = true := by
  rw [double?, meaning_of_isJson h] at hRead
  cases d with
  | int i =>
    obtain rfl := Option.some.inj hRead
    exact Double.isFinite_ofInt (Nat.le_trans (natAbs_le_of_isJson h) (by decide))
  | float y =>
    obtain rfl := Option.some.inj hRead
    exact h
  | _ => cases hRead

theorem exists_of_mapM {read : Document → Option α} {nodes : List Document} {items : List α}
    (h : nodes.mapM read = some items) :
    items.length = nodes.length ∧ ∀ a ∈ items, ∃ e ∈ nodes, read e = some a := by
  induction nodes generalizing items with
  | nil =>
    obtain rfl := Option.some.inj h
    simp
  | cons d nodes ih =>
    simp only [List.mapM_cons, Option.bind_eq_bind, Option.bind_eq_some_iff] at h
    obtain ⟨a, hFirst, rest, hRest, hItems⟩ := h
    obtain rfl := Option.some.inj hItems
    obtain ⟨hLength, hRead⟩ := ih hRest
    refine ⟨congrArg (· + 1) hLength, fun b hb => ?_⟩
    obtain rfl | hb := List.mem_cons.mp hb
    · exact ⟨d, List.mem_cons_self, hFirst⟩
    · obtain ⟨e, he, hReadItem⟩ := hRead b hb
      exact ⟨e, List.mem_cons_of_mem _ he, hReadItem⟩

theorem exists_of_items? {read : Document → Option α} {items : List α} (h : d.isJson = true)
    (hRead : d.items? read = some items) :
    items.length ≤ UInt64.size ∧ ∀ a ∈ items, ∃ e : Document, e.isJson = true ∧ read e = some a := by
  rw [items?, list?, untagged_of_isJson h] at hRead
  cases d with
  | list nodes =>
    obtain ⟨hLength, hItems⟩ := Bool.and_eq_true_iff.mp h
    obtain ⟨hCount, hReadItems⟩ := exists_of_mapM hRead
    refine ⟨hCount ▸ of_decide_eq_true hLength, fun a ha => ?_⟩
    obtain ⟨e, he, hReadItem⟩ := hReadItems a ha
    exact ⟨e, (isJsonItems_iff nodes).mp hItems e he, hReadItem⟩
  | word => cases h
  | _ => cases hRead

end Document

namespace Members

open Document

variable {α : Type} {m : Members} {name : String} {read : Document → Option α}

/-- Every member is a tree of JSON. -/
def AreJson (m : Members) : Prop :=
  ∀ e ∈ m, e.2.isJson = true

theorem AreJson.get? (h : m.AreJson) {d : Document} (hGet : m.get? name = some d) : d.isJson = true := by
  obtain ⟨before, after, rfl, -⟩ := List.lookup_eq_some_iff.mp hGet
  exact h (name, d) (List.mem_append_right _ List.mem_cons_self)

theorem AreJson.required (h : m.AreJson) {a : α} (hRead : m.required name read = some a) :
    ∃ d : Document, d.isJson = true ∧ read d = some a := by
  obtain ⟨d, hGet, hRead⟩ := Option.bind_eq_some_iff.mp hRead
  exact ⟨d, h.get? hGet, hRead⟩

theorem AreJson.orElse (h : m.AreJson) {a absent : α} (hRead : m.orElse name read absent = some a) :
    a = absent ∨ ∃ d : Document, d.isJson = true ∧ read d = some a := by
  unfold Members.orElse at hRead
  split at hRead
  · next d hGet => exact .inr ⟨d, h.get? hGet, hRead⟩
  · exact .inl (Option.some.inj hRead).symm

theorem areJson_of_members? {names : List String} {d : Document} (h : d.isJson = true)
    (hRead : d.members? names = some m) : m.AreJson := by
  unfold members? at hRead
  rw [map?, list?, untagged_of_isJson h] at hRead
  cases d with
  | map entries =>
    dsimp only at hRead
    split at hRead
    · obtain rfl := Option.some.inj hRead
      exact (isJsonEntries_iff entries).mp h
    · cases hRead
  | list items =>
    dsimp only at hRead
    split at hRead
    · obtain rfl := Option.some.inj hRead
      exact fun e he => (isJsonItems_iff items).mp (Bool.and_eq_true_iff.mp h).2 e.2 (List.of_mem_zip he).2
    · cases hRead
  | word => cases h
  | _ => cases hRead

end Members
end FieldRules
