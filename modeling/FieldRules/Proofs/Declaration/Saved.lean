import FieldRules.Proofs.Declaration.Accepted
import FieldRules.Proofs.Declaration.Stored

/-!
# Saved declarations

What is left of a declaration in its document: all that it declares, except that a target that JSON has no
number for has become null. An accepted declaration is read back as this.
-/
set_option autoImplicit false

namespace FieldRules

namespace Value

/-- What is left of a value in its document: infinities and not-a-number become null. -/
def saved : Value → Value
  | float x => if x.isFinite then float x else null
  | v => v

theorem toDocument_saved (v : Value) : v.saved.toDocument = v.toDocument := by
  cases v with
  | float x => by_cases h : x.isFinite = true <;> simp [saved, toDocument, Document.number, h]
  | null | bool | int | text | date => rfl

theorem saved_eq_self {v : Value} (h : ∀ x, v = float x → x.isFinite = true) : v.saved = v := by
  cases v with
  | float x => rw [saved, if_pos (h x rfl)]
  | null | bool | int | text | date => rfl

theorem isStorable_saved {v : Value} (h : ∀ t, v = date t → t.IsStorable) : v.saved.IsStorable := by
  cases v with
  | float x => by_cases hFinite : x.isFinite = true <;> simp [saved, IsStorable, hFinite]
  | date t => exact h t rfl
  | null | bool | int | text => trivial

end Value

namespace Rule

def target? : Rule → Option Value
  | requiredIf _ target => some target
  | conditionalRange _ target _ _ => some target
  | _ => none

def saved : Rule → Rule
  | requiredIf other target => requiredIf other target.saved
  | conditionalRange other target min max => conditionalRange other target.saved min max
  | r => r

variable (r : Rule)

theorem members_saved : r.saved.members = r.members := by
  cases r <;> simp [saved, members, name, parameters, Value.toDocument_saved]

theorem sibling?_saved : r.saved.sibling? = r.sibling? := by
  cases r <;> rfl

theorem sibling?_of_target? {r : Rule} {v : Value} (h : r.target? = some v) :
    ∃ other, r.sibling? = some other := by
  cases r with
  | requiredIf other => exact ⟨other, rfl⟩
  | conditionalRange other => exact ⟨other, rfl⟩
  | _ => cases h

theorem saved_eq_self (h : ∀ v ∈ r.target?, v.saved = v) : r.saved = r := by
  cases r with
  | requiredIf other target => rw [saved, h target rfl]
  | conditionalRange other target min max => rw [saved, h target rfl]
  | _ => rfl

theorem isStorable_saved {field : String} (hBounds : r.boundsDefect field = [])
    (hTarget : ∀ t, .date t ∈ r.target? → t.IsStorable) : r.saved.IsStorable := by
  have hFinite {min max : Double} (h : (min.isFinite && max.isFinite && min.atMost max) = true) :
      min.isFinite = true ∧ max.isFinite = true := by
    simp only [Bool.and_eq_true] at h
    exact h.1
  have hSaved {target : Value} (h : target ∈ r.target?) : target.saved.IsStorable :=
    Value.isStorable_saved fun t ht => hTarget t (ht ▸ h)
  cases r with
  | range min max =>
    simp only [boundsDefect, ite_eq_left_iff, reduceCtorEq, imp_false, Decidable.not_not] at hBounds
    exact hFinite hBounds
  | requiredIf other target => exact hSaved rfl
  | conditionalRange other target min max =>
    simp only [boundsDefect, ite_eq_left_iff, reduceCtorEq, imp_false, Decidable.not_not] at hBounds
    exact ⟨hSaved rfl, hFinite hBounds⟩
  | _ => trivial

end Rule

namespace Constraint

def saved (c : Constraint) : Constraint :=
  { c with rule := c.rule.saved }

theorem toDocument_saved (c : Constraint) : c.saved.toDocument = c.toDocument := by
  rw [toDocument, toDocument, members, members, saved, c.rule.members_saved]

end Constraint

namespace FieldDeclaration

def saved (f : FieldDeclaration) : FieldDeclaration :=
  { f with constraints := f.constraints.map Constraint.saved }

theorem toDocument_saved (f : FieldDeclaration) : f.saved.toDocument = f.toDocument := by
  have hConstraints : f.saved.constraints.map Constraint.toDocument =
      f.constraints.map Constraint.toDocument := by
    rw [saved, List.map_map]
    exact List.map_congr_left fun c _ => c.toDocument_saved
  have hEmpty : f.saved.constraints.isEmpty = f.constraints.isEmpty := by
    rw [saved, List.isEmpty_map]
  rw [toDocument, toDocument, Document.unlessEmpty, Document.unlessEmpty, hConstraints, hEmpty]
  rfl

end FieldDeclaration

namespace ModelDeclaration

def saved (d : ModelDeclaration) : ModelDeclaration :=
  { d with fields := d.fields.map FieldDeclaration.saved }

def targets (d : ModelDeclaration) : List Value :=
  d.fields.flatMap fun f => f.constraints.filterMap fun c => c.rule.target?

theorem mem_targets_iff (d : ModelDeclaration) (v : Value) :
    v ∈ d.targets ↔ ∃ f ∈ d.fields, ∃ c ∈ f.constraints, c.rule.target? = some v := by
  simp [targets]

theorem toDocument_saved (d : ModelDeclaration) : d.saved.toDocument = d.toDocument := by
  have hFields : d.saved.fields.map FieldDeclaration.toDocument = d.fields.map FieldDeclaration.toDocument := by
    rw [saved, List.map_map]
    exact List.map_congr_left fun f _ => f.toDocument_saved
  rw [toDocument, toDocument, hFields]
  rfl

theorem saved_eq_self {d : ModelDeclaration} (h : ∀ x, .float x ∈ d.targets → x.isFinite = true) :
    d.saved = d := by
  have hConstraint (f : FieldDeclaration) (hf : f ∈ d.fields) (c : Constraint) (hc : c ∈ f.constraints) :
      c.saved = c := by
    have hRule : c.rule.saved = c.rule := by
      refine c.rule.saved_eq_self fun v hv => Value.saved_eq_self fun x hx => h x ?_
      exact (d.mem_targets_iff _).mpr ⟨f, hf, c, hc, hx ▸ hv⟩
    rw [Constraint.saved, hRule]
  have hField (f : FieldDeclaration) (hf : f ∈ d.fields) : f.saved = f := by
    rw [FieldDeclaration.saved, List.map_congr_left (hConstraint f hf), List.map_id']
  rw [saved, List.map_congr_left hField, List.map_id']

theorem field?_saved_isNone (d : ModelDeclaration) (name : String) :
    (d.saved.field? name).isNone = (d.field? name).isNone := by
  rw [field?, saved, List.find?_map, Option.isNone_map]
  rfl

theorem defects_saved (d : ModelDeclaration) (f : FieldDeclaration) (r : Rule) :
    r.saved.defects d.saved f.saved = r.defects d f := by
  have hReference : r.saved.referenceDefect d.saved f.name = r.referenceDefect d f.name := by
    simp only [Rule.referenceDefect, r.sibling?_saved, d.field?_saved_isNone]
    cases r <;> rfl
  rw [Rule.defects, Rule.defects, ← hReference]
  cases r <;> rfl

theorem names_saved (d : ModelDeclaration) :
    d.saved.fields.map FieldDeclaration.name = d.fields.map FieldDeclaration.name := by
  rw [saved, List.map_map]
  rfl

section Accepted

variable {d : ModelDeclaration} (hAccepted : d.isAccepted = true)

include hAccepted

theorem defects_of_isAccepted {f : FieldDeclaration} (hf : f ∈ d.fields) {c : Constraint}
    (hc : c ∈ f.constraints) : c.rule.defects d f = [] :=
  (((d.fieldDefects_eq_nil_iff [] d.fields).mp (fieldDefects_of_isAccepted hAccepted)).1 f hf).2.2 c hc

theorem sibling_ne_name {f : FieldDeclaration} (hf : f ∈ d.fields) {c : Constraint} (hc : c ∈ f.constraints)
    {other : String} (hOther : c.rule.sibling? = some other) : f.name ≠ other := by
  have hDefects := defects_of_isAccepted hAccepted hf hc
  simp only [Rule.defects, List.append_eq_nil_iff, Rule.referenceDefect, hOther] at hDefects
  intro hName
  simp [hName] at hDefects

theorem isStorable_saved (hDates : ∀ t, .date t ∈ d.targets → t.IsStorable) : d.saved.IsStorable := by
  intro f' hf' c' hc'
  obtain ⟨f, hf, rfl⟩ := List.mem_map.mp hf'
  obtain ⟨c, hc, rfl⟩ := List.mem_map.mp hc'
  have hDefects := defects_of_isAccepted hAccepted hf hc
  simp only [Rule.defects, List.append_eq_nil_iff] at hDefects
  exact c.rule.isStorable_saved hDefects.1.1.2 fun t ht =>
    hDates t ((d.mem_targets_iff _).mpr ⟨f, hf, c, hc, ht⟩)

theorem ofDocument?_toDocument_eq_saved (hDates : ∀ t, .date t ∈ d.targets → t.IsStorable) :
    ofDocument? .entry d.toDocument = some d.saved := by
  rw [← d.toDocument_saved, ofDocument?_toDocument (isStorable_saved hAccepted hDates)]

theorem isAccepted_saved : d.saved.isAccepted = true := by
  rw [isAccepted_iff, defects, List.append_eq_nil_iff, fieldDefects_eq_nil_iff] at hAccepted ⊢
  obtain ⟨hName, hFields, hNodup⟩ := hAccepted
  refine ⟨hName, fun f' hf' => ?_, d.names_saved ▸ hNodup⟩
  obtain ⟨f, hf, rfl⟩ := List.mem_map.mp hf'
  obtain ⟨hBlank, hFresh, hRules⟩ := hFields f hf
  refine ⟨hBlank, hFresh, fun c' hc' => ?_⟩
  obtain ⟨c, hc, rfl⟩ := List.mem_map.mp hc'
  exact (defects_saved d f c.rule).trans (hRules c hc)

end Accepted

end ModelDeclaration

end FieldRules
