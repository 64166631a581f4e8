import FieldRules.Proofs.Outcome.Accumulated
import Mathlib.Data.List.Forall2

/-!
# Outcomes of nested models

The outcome of a model that a field of another one holds goes behind the entries of that one, under the name of the
field. Over several levels this amounts to one merge under the dotted path, wherever the levels are cut.
-/
set_option autoImplicit false

namespace FieldRules

/-- The entry moved under a container: on the container itself if it had no field, and on a dotted field else. -/
structure Entry.IsUnder (container : String) (e moved : Entry) : Prop where
  report : moved.report = e.report
  field : moved.field = if e.field = "" then container else container ++ "." ++ e.field

theorem Entry.isUnder_within (container : String) (e : Entry) : e.IsUnder container (e.within container) where
  report := e.report_within container
  field := by
    simp [within]

theorem Entry.within_within (outer : String) {inner : String} (hInner : inner ≠ "") (e : Entry) :
    (e.within inner).within outer = e.within (outer ++ "." ++ inner) := by
  by_cases hField : e.field = ""
  · simp [within, hField, hInner]
  · simp [within, hField, String.append_assoc]

namespace Outcome

structure Level where
  outer : Outcome
  container : String

/-- The innermost outcome merged into the last level, that one into the level before it, and so on outwards. -/
def nest (levels : List Level) (inner : Outcome) : Outcome :=
  levels.foldr (fun level nested => level.outer.mergeWithin level.container nested) inner

def path (levels : List Level) : String :=
  ".".intercalate (levels.map Level.container)

theorem path_cons (level : Level) {levels : List Level} (hSome : levels ≠ []) :
    path (level :: levels) = level.container ++ "." ++ path levels :=
  String.intercalate_cons_of_ne_nil (by simpa using hSome)

theorem path_ne_empty {levels : List Level} (hSome : levels ≠ [])
    (hNamed : ∀ level ∈ levels, level.container ≠ "") : path levels ≠ "" := by
  obtain ⟨level, rest, rfl⟩ := List.exists_cons_of_ne_nil hSome
  by_cases hRest : rest = []
  · subst hRest
    simpa [path] using hNamed level List.mem_cons_self
  · rw [path_cons level hRest]
    simp

theorem mergeWithin_empty (o : Outcome) (container : String) : o.mergeWithin container .empty = o := by
  simp [mergeWithin, extend, empty]

theorem mergeWithin_mergeWithin (o middle inner : Outcome) (outer : String) {container : String}
    (hContainer : container ≠ "") :
    o.mergeWithin outer (middle.mergeWithin container inner) =
      (o.mergeWithin outer middle).mergeWithin (outer ++ "." ++ container) inner := by
  simp [mergeWithin, extend, Entry.within_within outer hContainer]

theorem nest_eq_mergeWithin {levels : List Level} (hSome : levels ≠ [])
    (hNamed : ∀ level ∈ levels, level.container ≠ "") (inner : Outcome) :
    nest levels inner = (nest levels .empty).mergeWithin (path levels) inner := by
  induction levels with
  | nil => exact absurd rfl hSome
  | cons level levels ih =>
    have hNested (o : Outcome) :
        nest (level :: levels) o = level.outer.mergeWithin level.container (nest levels o) := rfl
    by_cases hLast : levels = []
    · subst hLast
      rw [hNested, hNested, nest, nest, List.foldr_nil, List.foldr_nil, mergeWithin_empty]
      rfl
    · have hRest : ∀ level ∈ levels, level.container ≠ "" := fun level h => hNamed level (List.mem_cons_of_mem _ h)
      -- the path below is not empty, so an entry without a field is moved onto it before it is moved again
      rw [hNested, hNested, ih hLast hRest, mergeWithin_mergeWithin _ _ _ _ (path_ne_empty hLast hRest),
        path_cons level hLast]

theorem nest_empty {levels : List Level} (hEmpty : ∀ level ∈ levels, level.outer = .empty) :
    nest levels .empty = .empty := by
  induction levels with
  | nil => rfl
  | cons level levels ih =>
    have hRest := ih fun level h => hEmpty level (List.mem_cons_of_mem _ h)
    calc
      nest (level :: levels) .empty = level.outer.mergeWithin level.container (nest levels .empty) := rfl
      _ = level.outer := by rw [hRest, mergeWithin_empty]
      _ = .empty := hEmpty level List.mem_cons_self

/-- The outer entries come first and stay as they are. The inner ones follow in order, under the container. -/
structure IsMerge (container : String) (outer inner merged : Outcome) : Prop where
  entries : ∃ moved, merged.entries = outer.entries ++ moved ∧
    List.Forall₂ (Entry.IsUnder container) inner.entries moved
  valid : merged.isValid = true ↔ outer.isValid = true ∧ inner.isValid = true

theorem isMerge_mergeWithin (container : String) (outer inner : Outcome) :
    IsMerge container outer inner (outer.mergeWithin container inner) where
  entries := by
    refine ⟨inner.entries.map (·.within container), rfl, ?_⟩
    rw [List.forall₂_map_right_iff, List.forall₂_same]
    exact fun e _ => e.isUnder_within container
  valid := by
    have hGrown : outer.GrowsTo inner.entries (outer.mergeWithin container inner) :=
      outer.growsTo_after (.mergeWithin container inner)
    rw [isValid_iff_of_reports hGrown.reports, List.forall_mem_append, ← isValid_iff, ← isValid_iff]

/-- Merging a chain of outcomes from the innermost level outwards amounts to one merge under the dotted path, wherever
the chain is cut: what is below the cut is moved at once. At every level the merge keeps the order, the messages and
the severities. -/
theorem nest_composes {levels : List Level} (hNamed : ∀ level ∈ levels, level.container ≠ "") (inner : Outcome) :
    (∀ above below, levels = above ++ below → above ≠ [] →
      nest levels inner = (nest above .empty).mergeWithin (path above) (nest below inner)) ∧
    (levels ≠ [] → (∀ level ∈ levels, level.outer = .empty) →
      nest levels inner = Outcome.empty.mergeWithin (path levels) inner) ∧
    ∀ above level below, levels = above ++ level :: below →
      IsMerge level.container level.outer (nest below inner) (nest (level :: below) inner) := by
  refine ⟨?_, fun hSome hEmpty => ?_, fun above level below _ => isMerge_mergeWithin _ _ _⟩
  · rintro above below rfl hSome
    have hAbove : ∀ level ∈ above, level.container ≠ "" := fun level h => hNamed level (List.mem_append_left below h)
    have hCut : nest (above ++ below) inner = nest above (nest below inner) := List.foldr_append
    rw [hCut, nest_eq_mergeWithin hSome hAbove]
  · rw [nest_eq_mergeWithin hSome hNamed, nest_empty hEmpty]

end Outcome

namespace Shipment

/-- A shipment has a receiver, and the receiver an address. -/
def levels : List Outcome.Level :=
  [⟨.failure "number" "No number.", "receiver"⟩, ⟨.failure "" "Receiver unknown.", "address"⟩]

def address : Outcome :=
  ⟨[{ field := "zip", message := "Bad zip code." }, { field := "", message := "Moved.", severity := .warning }]⟩

end Shipment

theorem Outcome.nest_composes_shipment :
    (∀ level ∈ Shipment.levels, level.container ≠ "") ∧
    nest Shipment.levels Shipment.address =
      (nest Shipment.levels .empty).mergeWithin "receiver.address" Shipment.address ∧
    (nest Shipment.levels Shipment.address).entries.map Entry.field =
      ["number", "receiver", "receiver.address.zip", "receiver.address"] := by
  have hNamed : ∀ level ∈ Shipment.levels, level.container ≠ "" := by decide
  refine ⟨hNamed, ?_, by decide⟩
  exact (nest_composes hNamed Shipment.address).1 Shipment.levels [] (List.append_nil _).symm (by decide)

end FieldRules
