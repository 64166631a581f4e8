import FieldRules.Proofs.Declaration.Stored
import FieldRules.Proofs.Plan.Stored
import FieldRules.Summary.Document

/-!
# Stored summaries

The numbers of a summary are bounds of the rules it gathers, and its targets are their targets. So the
summary of a storable plan is read back from its document as it was written.
-/
set_option autoImplicit false

namespace FieldRules

open Document (keys orNull read_bind unlessNone unlessEmpty)

namespace Double

variable {x y : Double}

theorem isFinite_max (hx : x.isFinite = true) (hy : y.isFinite = true) : (x.max y).isFinite = true := by
  cases x with
  | nan => cases hx
  | infinite => cases hx
  | finite x =>
    cases y with
    | nan => cases hy
    | infinite => cases hy
    | finite y =>
      simp only [max]
      split <;> rfl

theorem isFinite_min (hx : x.isFinite = true) (hy : y.isFinite = true) : (x.min y).isFinite = true := by
  cases x with
  | nan => cases hx
  | infinite => cases hx
  | finite x =>
    cases y with
    | nan => cases hy
    | infinite => cases hy
    | finite y =>
      simp only [min]
      split <;> rfl

end Double

namespace Members

variable {m : Members} {name : String}

theorem orElse_texts (items : List String)
    (hGet : m.get? name = if items ≠ [] then some (.list (items.map .text)) else none) :
    m.orElse name (Document.items? Document.text?) [] = some items :=
  orElse_unlessEmpty .text hGet fun _ _ => rfl

variable {bound : Option Double} (hFinite : ∀ x ∈ bound, x.isFinite = true)

include hFinite

theorem isNull_number_of_mem : ∀ x ∈ bound, (Document.number x).isNull = false := by
  intro x hx
  simp [Document.number, hFinite x hx, Document.isNull, Document.meaning]

theorem optional_unlessNone_number (hGet : m.get? name = bound.map Document.number) :
    m.optional name Document.double? = some bound :=
  optional_unlessNone .number hGet (isNull_number_of_mem hFinite) fun x hx =>
    Document.double?_number (hFinite x hx)

theorem optional_orNull_number (hGet : m.get? name = some (orNull .number bound)) :
    m.optional name Document.double? = some bound :=
  optional_orNull .number hGet (isNull_number_of_mem hFinite) fun x hx =>
    Document.double?_number (hFinite x hx)

end Members

theorem Format.ofDocument?_toDocument (f : Format) : Format.ofDocument? .entry f.toDocument = some f :=
  Format.ofName?_name f

namespace Condition

structure IsStorable (c : Condition) : Prop where
  target : c.target.IsStorable
  numericMin : ∀ x ∈ c.numericMin, x.isFinite = true
  numericMax : ∀ x ∈ c.numericMax, x.isFinite = true

def members (c : Condition) : Members :=
  [("other", .text c.other), ("target", c.target.toDocument), ("required", .bool c.required)] ++
    unlessNone "numeric_min" .number c.numericMin ++ unlessNone "numeric_max" .number c.numericMax

theorem keys_members_nodup (c : Condition) : (keys c.members).Nodup := by
  have hSublist : (keys c.members).Sublist names := by
    simp only [keys, members, List.map_append]
    exact ((List.Sublist.refl _).append (Document.keys_unlessNone_sublist ..)).append
      (Document.keys_unlessNone_sublist ..)
  exact hSublist.nodup (by decide)

theorem ofDocument?_toDocument {c : Condition} (h : c.IsStorable) : ofDocument? c.toDocument = some c := by
  have hMembers : c.toDocument.members? names = some c.members :=
    Document.members?_map c.members names c.keys_members_nodup
  have hOther : Members.required c.members "other" Document.text? = some c.other :=
    Members.required_eq_some (d := .text c.other) (by simp [members]) rfl
  have hTarget : Members.required c.members "target" (fun d => d.resolved?.bind Value.ofDocument?) =
      some c.target := by
    refine Members.required_eq_some (d := c.target.toDocument) (by simp [members]) ?_
    rw [Value.resolved?_toDocument, Option.bind_some, Value.ofDocument?_toDocument h.target]
  have hRequired : Members.required c.members "required" Document.bool? = some c.required :=
    Members.required_eq_some (d := .bool c.required) (by simp [members]) rfl
  have hMin : Members.optional c.members "numeric_min" Document.double? = some c.numericMin :=
    Members.optional_unlessNone_number h.numericMin (by simp [members])
  have hMax : Members.optional c.members "numeric_max" Document.double? = some c.numericMax :=
    Members.optional_unlessNone_number h.numericMax (by simp [members])
  rw [ofDocument?, read_bind hMembers, read_bind hOther, read_bind hTarget, read_bind hRequired, read_bind hMin,
    read_bind hMax]

end Condition

namespace FieldSummary

structure IsStorable (s : FieldSummary) : Prop where
  numericMin : ∀ x ∈ s.numericMin, x.isFinite = true
  numericMax : ∀ x ∈ s.numericMax, x.isFinite = true
  conditions : ∀ c ∈ s.conditions, c.IsStorable

def members (s : FieldSummary) : Members :=
  [("name", .text s.name), ("display_name", .text s.displayName),
    ("field_type", s.fieldType.toDocument), ("nullable", .bool s.nullable),
    ("has_required", .bool s.hasRequired), ("string_min", orNull .size s.stringMin),
    ("string_max", orNull .size s.stringMax), ("numeric_min", orNull .number s.numericMin),
    ("numeric_max", orNull .number s.numericMax)] ++
  unlessEmpty "formats" Format.toDocument s.formats ++
  unlessEmpty "allowed_values" .text s.allowedValues ++
  unlessEmpty "file_extensions" .text s.fileExtensions ++
  unlessEmpty "conditions" Condition.toDocument s.conditions ++
  unlessEmpty "groups" .text s.groups

theorem keys_members_nodup (s : FieldSummary) : (keys s.members).Nodup := by
  have hSublist : (keys s.members).Sublist names := by
    simp only [keys, members, List.map_append]
    exact (((((List.Sublist.refl _).append (Document.keys_unlessEmpty_sublist ..)).append
      (Document.keys_unlessEmpty_sublist ..)).append (Document.keys_unlessEmpty_sublist ..)).append
      (Document.keys_unlessEmpty_sublist ..)).append (Document.keys_unlessEmpty_sublist ..)
  exact hSublist.nodup (by decide)

theorem ofDocument?_toDocument {s : FieldSummary} (h : s.IsStorable) :
    ofDocument? .entry s.toDocument = some s := by
  have hMembers : s.toDocument.members? names = some s.members :=
    Document.members?_map s.members names s.keys_members_nodup
  have hName : Members.required s.members "name" Document.text? = some s.name :=
    Members.required_eq_some (d := .text s.name) (by simp [members]) rfl
  have hDisplay : Members.required s.members "display_name" Document.text? = some s.displayName :=
    Members.required_eq_some (d := .text s.displayName) (by simp [members]) rfl
  have hType : Members.required s.members "field_type" (FieldType.ofDocument? .entry) = some s.fieldType :=
    Members.required_eq_some (d := s.fieldType.toDocument) (by simp [members])
      s.fieldType.ofDocument?_toDocument
  have hNullable : Members.required s.members "nullable" Document.bool? = some s.nullable :=
    Members.required_eq_some (d := .bool s.nullable) (by simp [members]) rfl
  have hRequired : Members.required s.members "has_required" Document.bool? = some s.hasRequired :=
    Members.required_eq_some (d := .bool s.hasRequired) (by simp [members]) rfl
  have hStringMin : Members.optional s.members "string_min" Document.size? = some s.stringMin :=
    Members.optional_orNull .size (by simp [members]) (fun _ _ => rfl) fun n _ => Document.size?_size n
  have hStringMax : Members.optional s.members "string_max" Document.size? = some s.stringMax :=
    Members.optional_orNull .size (by simp [members]) (fun _ _ => rfl) fun n _ => Document.size?_size n
  have hMin : Members.optional s.members "numeric_min" Document.double? = some s.numericMin :=
    Members.optional_orNull_number h.numericMin (by simp [members])
  have hMax : Members.optional s.members "numeric_max" Document.double? = some s.numericMax :=
    Members.optional_orNull_number h.numericMax (by simp [members])
  have hFormats : Members.orElse s.members "formats" (Document.items? (Format.ofDocument? .entry)) [] =
      some s.formats :=
    Members.orElse_unlessEmpty Format.toDocument (by simp [members])
      fun f _ => f.ofDocument?_toDocument
  have hAllowed : Members.orElse s.members "allowed_values" (Document.items? Document.text?) [] =
      some s.allowedValues :=
    Members.orElse_texts s.allowedValues (by simp [members])
  have hExtensions : Members.orElse s.members "file_extensions" (Document.items? Document.text?) [] =
      some s.fileExtensions :=
    Members.orElse_texts s.fileExtensions (by simp [members])
  have hConditions : Members.orElse s.members "conditions" (Document.items? Condition.ofDocument?) [] =
      some s.conditions :=
    Members.orElse_unlessEmpty Condition.toDocument (by simp [members])
      fun c hc => Condition.ofDocument?_toDocument (h.conditions c hc)
  have hGroups : Members.orElse s.members "groups" (Document.items? Document.text?) [] = some s.groups :=
    Members.orElse_texts s.groups (by simp [members])
  rw [ofDocument?, read_bind hMembers, read_bind hName, read_bind hDisplay, read_bind hType,
    read_bind hNullable, read_bind hRequired, read_bind hStringMin, read_bind hStringMax, read_bind hMin,
    read_bind hMax, read_bind hFormats, read_bind hAllowed, read_bind hExtensions, read_bind hConditions,
    read_bind hGroups]

theorem isStorable_ofPlanned (f : PlannedField) : (ofPlanned f).IsStorable where
  numericMin x hx := by cases hx
  numericMax x hx := by cases hx
  conditions c hc := by cases hc

theorem IsStorable.absorb {s : FieldSummary} (h : s.IsStorable) {r : Rule} (hRule : r.IsStorable) :
    (s.absorb r).IsStorable := by
  obtain ⟨hMin, hMax, hConditions⟩ := h
  cases r with
  | required | length | email | url | creditCard | phone | fileExtension | futureDate | allowedValues =>
    exact ⟨hMin, hMax, hConditions⟩
  | range min max =>
    refine ⟨fun x hx => ?_, fun x hx => ?_, hConditions⟩
    · obtain rfl := Option.some.inj hx
      cases hBound : s.numericMin with
      | none => exact hRule.1
      | some y => exact Double.isFinite_max (hMin y hBound) hRule.1
    · obtain rfl := Option.some.inj hx
      cases hBound : s.numericMax with
      | none => exact hRule.2
      | some y => exact Double.isFinite_min (hMax y hBound) hRule.2
  | requiredIf other target =>
    refine ⟨hMin, hMax, fun c hc => ?_⟩
    obtain hc | hc := List.mem_append.mp hc
    · exact hConditions c hc
    · obtain rfl := List.mem_singleton.mp hc
      exact ⟨hRule, by simp, by simp⟩
  | conditionalRange other target min max =>
    refine ⟨hMin, hMax, fun c hc => ?_⟩
    obtain hc | hc := List.mem_append.mp hc
    · exact hConditions c hc
    · obtain rfl := List.mem_singleton.mp hc
      exact ⟨hRule.1, by simpa using hRule.2.1, by simpa using hRule.2.2⟩

theorem IsStorable.absorbConstraint {s : FieldSummary} (h : s.IsStorable) {c : Constraint}
    (hRule : c.rule.IsStorable) : (s.absorbConstraint c).IsStorable := by
  obtain ⟨hMin, hMax, hConditions⟩ := h.absorb hRule
  unfold FieldSummary.absorbConstraint
  cases c.group <;> exact ⟨hMin, hMax, hConditions⟩

end FieldSummary

namespace Summary

def IsStorable (s : Summary) : Prop :=
  ∀ f ∈ s.fields, f.IsStorable

theorem ofDocument?_toDocument {s : Summary} (h : s.IsStorable) : ofDocument? .entry s.toDocument = some s := by
  have hMembers := Document.members?_map [("model", .text s.model),
    ("fields", .list (s.fields.map FieldSummary.toDocument))] names (by simp [keys])
  have hFields := Document.items?_list fun f hf => FieldSummary.ofDocument?_toDocument (h f hf)
  simp [ofDocument?, toDocument, hMembers, Members.required, Document.text?, Document.untagged, hFields]

theorem isStorable_absorbStep {fields : List FieldSummary} {s : ValidateStep}
    (h : ∀ f ∈ fields, f.IsStorable) (hStep : s.IsStorable) : ∀ f ∈ absorbStep fields s, f.IsStorable := by
  cases s with
  | custom => exact h
  | constraint index c sibling =>
    intro f hf
    obtain ⟨i, hi, rfl⟩ := List.getElem_of_mem hf
    simp only [absorbStep, List.getElem_modify]
    split
    · exact (h _ (List.getElem_mem _)).absorbConstraint (hStep.rule c rfl)
    · exact h _ (List.getElem_mem _)

theorem isStorable_foldl {steps : List ValidateStep} {fields : List FieldSummary}
    (h : ∀ f ∈ fields, f.IsStorable) (hSteps : ∀ s ∈ steps, s.IsStorable) :
    ∀ f ∈ steps.foldl absorbStep fields, f.IsStorable := by
  induction steps generalizing fields with
  | nil => exact h
  | cons s steps ih =>
    exact ih (isStorable_absorbStep h (hSteps s List.mem_cons_self)) fun t ht =>
      hSteps t (List.mem_cons_of_mem _ ht)

theorem isStorable_ofPlan {p : Plan} (h : p.IsStorable) : (ofPlan p).IsStorable := by
  refine isStorable_foldl (fun f hf => ?_) h.validate
  obtain ⟨planned, -, rfl⟩ := List.mem_map.mp hf
  exact FieldSummary.isStorable_ofPlanned planned

end Summary
end FieldRules
