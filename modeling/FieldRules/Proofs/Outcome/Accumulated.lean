import FieldRules.Outcome

/-!
# Outcomes after calls

An outcome only grows. Each call appends entries that report what it was given, and an entry that is there keeps its
place and what it reports. A call can change its field only if that is empty.
-/
set_option autoImplicit false

namespace FieldRules

namespace Entry

def report (e : Entry) : String × Severity :=
  (e.message, e.severity)

theorem report_within (container : String) (e : Entry) : (e.within container).report = e.report :=
  rfl

theorem report_attributeTo (field : String) (e : Entry) : (e.attributeTo field).report = e.report := by
  unfold attributeTo
  split <;> rfl

theorem attributeTo_of_ne (field : String) {e : Entry} (h : e.field ≠ "") : e.attributeTo field = e := by
  rw [attributeTo, if_neg]
  simpa using h

end Entry

inductive OutcomeCall where
  | push (e : Entry)
  | extend (entries : List Entry)
  | merge (inner : Outcome)
  | mergeWithin (container : String) (inner : Outcome)
  | attributeTo (field : String)

def OutcomeCall.supplied : OutcomeCall → List Entry
  | push e => [e]
  | extend entries => entries
  | merge inner => inner.entries
  | mergeWithin _ inner => inner.entries
  | attributeTo _ => []

namespace Outcome

def after (o : Outcome) : OutcomeCall → Outcome
  | .push e => o.push e
  | .extend entries => o.extend entries
  | .merge inner => o.merge inner
  | .mergeWithin container inner => o.mergeWithin container inner
  | .attributeTo field => o.attributeTo field

def afterAll (o : Outcome) (calls : List OutcomeCall) : Outcome :=
  calls.foldl after o

theorem isValid_iff (o : Outcome) : o.isValid = true ↔ ∀ e ∈ o.entries, e.severity ≠ .error := by
  simp [isValid, Entry.isError]

theorem errorCount_eq_zero_iff (o : Outcome) : o.errorCount = 0 ↔ ∀ e ∈ o.entries, e.severity ≠ .error := by
  simp [errorCount, withSeverity]

/-- Validity depends on the reports alone. -/
theorem isValid_iff_of_reports {o : Outcome} {entries : List Entry}
    (h : o.entries.map Entry.report = entries.map Entry.report) :
    o.isValid = true ↔ ∀ e ∈ entries, e.severity ≠ .error := by
  have hReports (l : List Entry) :
      (∀ r ∈ l.map Entry.report, r.2 ≠ Severity.error) ↔ ∀ e ∈ l, e.severity ≠ .error := List.forall_mem_map
  rw [isValid_iff, ← hReports, h, hReports]

/-- The entries of an outcome go on in another one, which reports also what was supplied. -/
structure GrowsTo (o : Outcome) (supplied : List Entry) (o' : Outcome) : Prop where
  reports : o'.entries.map Entry.report = (o.entries ++ supplied).map Entry.report
  keeps : ∀ (i : Nat) (e : Entry), o.entries[i]? = some e → e.field ≠ "" → o'.entries[i]? = some e

theorem GrowsTo.refl (o : Outcome) : o.GrowsTo [] o :=
  ⟨by rw [List.append_nil], fun _ _ h _ => h⟩

theorem GrowsTo.trans {o o' o'' : Outcome} {supplied supplied' : List Entry} (h : o.GrowsTo supplied o')
    (h' : o'.GrowsTo supplied' o'') : o.GrowsTo (supplied ++ supplied') o'' where
  reports := by
    rw [h'.reports, List.map_append, h.reports, ← List.map_append, List.append_assoc]
  keeps i e hAt hField := h'.keeps i e (h.keeps i e hAt hField) hField

theorem growsTo_extend (o : Outcome) {supplied added : List Entry}
    (h : added.map Entry.report = supplied.map Entry.report) : o.GrowsTo supplied (o.extend added) where
  reports := by
    rw [extend, List.map_append, h, List.map_append]
  keeps i e hAt _ := by
    have hBound := (List.getElem?_eq_some_iff.mp hAt).1
    rw [extend, List.getElem?_append_left hBound, hAt]

theorem growsTo_attributeTo (o : Outcome) (field : String) : o.GrowsTo [] (o.attributeTo field) where
  reports := by
    rw [attributeTo, List.map_map, List.append_nil]
    exact List.map_congr_left fun e _ => e.report_attributeTo field
  keeps i e hAt hField := by
    rw [attributeTo, List.getElem?_map, hAt, Option.map_some, Entry.attributeTo_of_ne field hField]

theorem growsTo_after (o : Outcome) (call : OutcomeCall) : o.GrowsTo call.supplied (o.after call) := by
  cases call with
  | push e => exact o.growsTo_extend rfl
  | extend entries => exact o.growsTo_extend rfl
  | merge inner => exact o.growsTo_extend rfl
  | mergeWithin container inner =>
    refine o.growsTo_extend ?_
    rw [List.map_map]
    exact List.map_congr_left fun e _ => e.report_within container
  | attributeTo field => exact o.growsTo_attributeTo field

theorem growsTo_afterAll (o : Outcome) (calls : List OutcomeCall) :
    o.GrowsTo (calls.flatMap OutcomeCall.supplied) (o.afterAll calls) := by
  induction calls generalizing o with
  | nil => exact .refl o
  | cons call rest ih => exact (o.growsTo_after call).trans (ih (o.after call))

theorem GrowsTo.isValid_of_isValid {o o' : Outcome} {supplied : List Entry} (h : o.GrowsTo supplied o')
    (hValid : o'.isValid = true) : o.isValid = true := by
  rw [isValid_iff_of_reports h.reports] at hValid
  exact o.isValid_iff.mpr fun e he => hValid e (List.mem_append_left supplied he)

/-- After any calls, an outcome reports what it did at first and then what the calls supplied, in order, and it is
valid if and only if none of that is an error. Whatever is called later leaves the entries that have a field, and an
outcome that is invalid remains so. -/
theorem afterAll_accumulates (o : Outcome) (calls : List OutcomeCall) :
    (o.afterAll calls).entries.map Entry.report =
        (o.entries ++ calls.flatMap OutcomeCall.supplied).map Entry.report ∧
      ((o.afterAll calls).isValid = true ↔ (o.afterAll calls).errorCount = 0) ∧
      ((o.afterAll calls).isValid = true ↔
        ∀ e ∈ o.entries ++ calls.flatMap OutcomeCall.supplied, e.severity ≠ .error) ∧
      ∀ later, (∀ (i : Nat) (e : Entry), (o.afterAll calls).entries[i]? = some e → e.field ≠ "" →
          ((o.afterAll calls).afterAll later).entries[i]? = some e) ∧
        ((o.afterAll calls).isValid = false → ((o.afterAll calls).afterAll later).isValid = false) := by
  have hGrown := o.growsTo_afterAll calls
  refine ⟨hGrown.reports, ?_, isValid_iff_of_reports hGrown.reports, fun later => ?_⟩
  · rw [isValid_iff, errorCount_eq_zero_iff]
  · have hLater := (o.afterAll calls).growsTo_afterAll later
    refine ⟨hLater.keeps, fun hInvalid => ?_⟩
    rw [Bool.eq_false_iff] at hInvalid ⊢
    exact fun hValid => hInvalid (hLater.isValid_of_isValid hValid)

end Outcome
end FieldRules
