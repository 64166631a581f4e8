import FieldRules.Proofs.Document.Json
import FieldRules.Proofs.Summary.Stored

/-!
# Declarations out of JSON

Whatever declaration a tree of JSON is read as, all its values have stored forms. So it survives being written
and read again, and so do its plan and the summary of that plan.
-/
set_option autoImplicit false

namespace FieldRules

namespace Value

theorem isStorable_ofInt {i : Int} (h : (Document.int i).isJson = true) : (ofInt i).IsStorable := by
  unfold ofInt
  split
  · trivial
  · exact Double.isFinite_ofInt (Nat.le_trans (Document.natAbs_le_of_isJson h) (by decide))

theorem isStorable_of_storedDate? {d : Document} {v : Value} (h : storedDate? d = some v) : v.IsStorable := by
  unfold storedDate? at h
  split at h
  · obtain ⟨t, hRead, rfl⟩ := Option.map_eq_some_iff.mp h
    exact Instant.isStorable_of_readStored? hRead
  · cases h

theorem isStorable_of_ofDocument? {d : Document} {v : Value} (hJson : d.isJson = true)
    (h : ofDocument? d = some v) : v.IsStorable := by
  rw [ofDocument?, Document.meaning_of_isJson hJson] at h
  split at h
  · obtain rfl := Option.some.inj h
    trivial
  · obtain rfl := Option.some.inj h
    trivial
  · obtain rfl := Option.some.inj h
    exact isStorable_ofInt hJson
  · obtain rfl := Option.some.inj h
    exact hJson
  · obtain rfl := Option.some.inj h
    trivial
  · split at h
    · exact isStorable_of_storedDate? h
    · cases h
  · exact isStorable_of_storedDate? h
  · cases h

end Value

namespace Rule

variable {m : Members} {r : Rule}

theorem once_eq {names : List String} {m' : Members} (h : once names m = some m') : m' = m := by
  simp only [once, Document.members?, Document.map?, Document.untagged] at h
  split at h
  · exact (Option.some.inj h).symm
  · cases h

theorem isFinite_of_required {name : String} {x : Double} (hJson : m.AreJson)
    (h : m.required name Document.double? = some x) : x.isFinite = true := by
  obtain ⟨d, hTree, hRead⟩ := hJson.required h
  exact Document.isFinite_of_double? hTree hRead

theorem isStorable_of_required {name : String} {v : Value} (hJson : m.AreJson)
    (h : m.required name Value.ofDocument? = some v) : v.IsStorable := by
  obtain ⟨d, hTree, hRead⟩ := hJson.required h
  exact Value.isStorable_of_ofDocument? hTree hRead

theorem isStorable_of_ofName? {name : String} (hJson : m.AreJson) (h : ofName? name m = some r) :
    r.IsStorable := by
  unfold ofName? at h
  split at h <;>
    simp only [Option.bind_eq_bind, Option.bind_eq_some_iff, Option.some.injEq, reduceCtorEq] at h
  case h_2 =>
    obtain ⟨_, -, _, -, _, -, rfl⟩ := h
    trivial
  case h_3 =>
    obtain ⟨m', hOnce, min, hMin, max, hMax, rfl⟩ := h
    obtain rfl := once_eq hOnce
    exact ⟨isFinite_of_required hJson hMin, isFinite_of_required hJson hMax⟩
  case h_8 =>
    obtain ⟨_, -, _, -, rfl⟩ := h
    trivial
  case h_10 =>
    obtain ⟨_, -, _, -, rfl⟩ := h
    trivial
  case h_11 =>
    obtain ⟨m', hOnce, other, -, target, hTarget, rfl⟩ := h
    obtain rfl := once_eq hOnce
    exact isStorable_of_required hJson hTarget
  case h_12 =>
    obtain ⟨m', hOnce, other, -, target, hTarget, min, hMin, max, hMax, rfl⟩ := h
    obtain rfl := once_eq hOnce
    exact ⟨isStorable_of_required hJson hTarget, isFinite_of_required hJson hMin,
      isFinite_of_required hJson hMax⟩
  all_goals
    subst h
    trivial

theorem isStorable_of_ofMembers? {readName : Document → Option String} (hJson : m.AreJson)
    (h : ofMembers? readName m = some r) : r.IsStorable := by
  have hResolved := Document.resolvedEntries?_of_isJson m ((Document.isJsonEntries_iff m).mpr hJson)
  simp only [ofMembers?, hResolved, Option.bind_eq_bind, Option.bind_some, Option.bind_eq_some_iff] at h
  obtain ⟨m', hOnce, name, -, hRule⟩ := h
  obtain rfl := once_eq hOnce
  exact isStorable_of_ofName? hJson hRule

end Rule

theorem Constraint.isStorable_of_ofDocument? {form : VariantForm} {d : Document} {c : Constraint}
    (hJson : d.isJson = true) (h : Constraint.ofDocument? form d = some c) : c.rule.IsStorable := by
  obtain ⟨entries, hMap, h⟩ := Option.bind_eq_some_iff.mp h
  have hEntries : Members.AreJson entries := by
    rw [Document.map?, Document.untagged_of_isJson hJson] at hMap
    cases d with
    | map entries' =>
      obtain rfl := Option.some.inj hMap
      exact (Document.isJsonEntries_iff _).mp hJson
    | word => cases hJson
    | _ => cases hMap
  simp only [ofMembers?, Option.bind_eq_bind, Option.bind_eq_some_iff, Option.some.injEq] at h
  obtain ⟨_, -, _, -, _, -, _, -, r, hRule, rfl⟩ := h
  exact Rule.isStorable_of_ofMembers? (fun e he => hEntries e (List.mem_of_mem_filter he)) hRule

theorem FieldDeclaration.isStorable_of_ofDocument? {form : VariantForm} {d : Document} {f : FieldDeclaration}
    (hJson : d.isJson = true) (h : FieldDeclaration.ofDocument? form d = some f) : f.IsStorable := by
  simp only [ofDocument?, Option.bind_eq_bind, Option.bind_eq_some_iff, Option.some.injEq] at h
  obtain ⟨m, hMembers, _, -, _, -, _, -, _, -, constraints, hConstraints, _, -, _, -, rfl⟩ := h
  intro c hc
  obtain rfl | ⟨list, hList, hItems⟩ := (Members.areJson_of_members? hJson hMembers).orElse hConstraints
  · cases hc
  · obtain ⟨tree, hTree, hRead⟩ := (Document.exists_of_items? hList hItems).2 c hc
    exact Constraint.isStorable_of_ofDocument? hTree hRead

theorem ModelDeclaration.isStorable_of_ofDocument? {form : VariantForm} {t : Document} {d : ModelDeclaration}
    (hJson : t.isJson = true) (h : ModelDeclaration.ofDocument? form t = some d) :
    d.IsStorable ∧ d.fields.length ≤ UInt64.size := by
  simp only [ofDocument?, Option.bind_eq_bind, Option.bind_eq_some_iff, Option.some.injEq] at h
  obtain ⟨m, hMembers, _, -, fields, hFields, _, -, rfl⟩ := h
  obtain rfl | ⟨list, hList, hItems⟩ := (Members.areJson_of_members? hJson hMembers).orElse hFields
  · exact ⟨fun f hf => absurd hf List.not_mem_nil, Nat.zero_le _⟩
  · obtain ⟨hCount, hRead⟩ := Document.exists_of_items? hList hItems
    refine ⟨fun f hf => ?_, hCount⟩
    obtain ⟨tree, hTree, hField⟩ := hRead f hf
    exact FieldDeclaration.isStorable_of_ofDocument? hTree hField

/-- A declaration read from a tree of JSON, its plan and the summary of that plan are each
read back from their own documents as they were written. -/
theorem ModelDeclaration.readsBack_of_isJson {t : Document} {d : ModelDeclaration} (hJson : t.isJson = true)
    (hRead : ModelDeclaration.ofDocument? .entry t = some d) :
    ModelDeclaration.ofDocument? .entry d.toDocument = some d ∧
      Plan.ofDocument? .entry (Plan.ofDeclaration d).toDocument = some (Plan.ofDeclaration d) ∧
      Summary.ofDocument? .entry (Summary.ofPlan (.ofDeclaration d)).toDocument =
        some (Summary.ofPlan (.ofDeclaration d)) := by
  obtain ⟨hStorable, hCount⟩ := isStorable_of_ofDocument? hJson hRead
  have hPlan := Plan.isStorable_ofDeclaration hStorable hCount
  exact ⟨ofDocument?_toDocument hStorable, Plan.ofDocument?_toDocument hPlan,
    Summary.ofDocument?_toDocument (Summary.isStorable_ofPlan hPlan)⟩

namespace Order

/-- A document of a model whose total has a range of its own when the order is due at a leap second. -/
def document : Document :=
  .map [("name", .text "Order"), ("model_hook", .null), ("fields", .list [
    .map [("name", .text "due"), ("field_type", .text "date")],
    .map [("name", .text "total"), ("field_type", .text "float"), ("sanitize", .map []),
      ("constraints", .list [
        .map [("kind", .text "conditional_range"), ("other", .text "due"),
          ("target", .map [("date", .text "2016-12-31 23:59:60.5Z")]), ("min", .int 10), ("max", .int 500),
          ("message", .map [("resource", .text "order.total")]), ("group", .text "checkout")]]),
      ("custom_validators", .list [.map [("name", .text "audit"), ("is_async", .bool true)]])]])]

def declaration : ModelDeclaration :=
  { name := "Order"
    fields := [{ name := "due", fieldType := .date },
      { name := "total"
        fieldType := .float
        sanitize := some ⟨false, false, false⟩
        constraints := [
          { rule := .conditionalRange "due" (.date { seconds := 1483228799, nanos := 1500000000 }) (.ofInt 10)
              (.ofInt 500)
            message := some (.resource "order.total")
            group := some "checkout" }]
        validators := [{ name := "audit", isAsync := true }] }] }

end Order

theorem ModelDeclaration.readsBack_order :
    Order.document.isJson = true ∧ ModelDeclaration.ofDocument? .entry Order.document = some Order.declaration ∧
      ModelDeclaration.ofDocument? .entry Order.declaration.toDocument = some Order.declaration ∧
      Plan.ofDocument? .entry (Plan.ofDeclaration Order.declaration).toDocument =
        some (Plan.ofDeclaration Order.declaration) ∧
      Summary.ofDocument? .entry (Summary.ofPlan (.ofDeclaration Order.declaration)).toDocument =
        some (Summary.ofPlan (.ofDeclaration Order.declaration)) := by
  have hJson : Order.document.isJson = true := by decide
  have hRead : ModelDeclaration.ofDocument? .entry Order.document = some Order.declaration := rfl
  exact ⟨hJson, hRead, ModelDeclaration.readsBack_of_isJson hJson hRead⟩

end FieldRules
