import FieldRules.Declaration.Document
import FieldRules.Proofs.Rule.Stored

/-!
# Stored declarations

A declaration whose rules have stored forms is read back from its document as it was written.
-/
set_option autoImplicit false

namespace FieldRules

open Document (keys read_bind unlessNone unlessEmpty)

theorem Directive.ofDocument?_toDocument (d : Directive) : Directive.ofDocument? d.toDocument = some d := by
  have hMembers := Document.members?_map [("trim", .bool d.trim), ("upper", .bool d.upper),
    ("lower", .bool d.lower)] Directive.names (by simp [keys])
  simp [Directive.ofDocument?, Directive.toDocument, hMembers, Members.orElse, Document.bool?,
    Document.untagged, Document.meaning]

theorem FieldType.ofDocument?_toDocument (t : FieldType) : FieldType.ofDocument? .entry t.toDocument = some t :=
  FieldType.ofName?_name t

theorem ValidatorRef.ofDocument?_toDocument (v : ValidatorRef) :
    ValidatorRef.ofDocument? v.toDocument = some v := by
  have hMembers := Document.members?_map [("name", .text v.name), ("is_async", .bool v.isAsync)]
    ValidatorRef.names (by simp [keys])
  simp [ValidatorRef.ofDocument?, ValidatorRef.toDocument, hMembers, Members.required, Members.orElse,
    Document.text?, Document.bool?, Document.untagged, Document.meaning]

namespace FieldDeclaration

def IsStorable (f : FieldDeclaration) : Prop :=
  ∀ c ∈ f.constraints, c.rule.IsStorable

def members (f : FieldDeclaration) : Members :=
  [("name", .text f.name), ("field_type", f.fieldType.toDocument), ("nullable", .bool f.nullable)] ++
    unlessNone "display_name" .text f.displayName ++
    unlessEmpty "constraints" Constraint.toDocument f.constraints ++
    unlessNone "sanitize" Directive.toDocument f.sanitize ++
    unlessEmpty "custom_validators" ValidatorRef.toDocument f.validators

theorem keys_members_nodup (f : FieldDeclaration) : (keys f.members).Nodup := by
  have hSublist : (keys f.members).Sublist names := by
    simp only [keys, members, List.map_append]
    exact ((((List.Sublist.refl _).append (Document.keys_unlessNone_sublist ..)).append
      (Document.keys_unlessEmpty_sublist ..)).append (Document.keys_unlessNone_sublist ..)).append
      (Document.keys_unlessEmpty_sublist ..)
  exact hSublist.nodup (by decide)

theorem ofDocument?_toDocument {f : FieldDeclaration} (h : f.IsStorable) :
    ofDocument? .entry f.toDocument = some f := by
  have hMembers : f.toDocument.members? names = some f.members :=
    Document.members?_map f.members names f.keys_members_nodup
  have hName : Members.required f.members "name" Document.text? = some f.name :=
    Members.required_eq_some (d := .text f.name) (by simp [members]) rfl
  have hType : Members.orElse f.members "field_type" (FieldType.ofDocument? .entry) .other = some f.fieldType :=
    Members.orElse_eq_some (d := f.fieldType.toDocument) (by simp [members]) f.fieldType.ofDocument?_toDocument
  have hNullable : Members.orElse f.members "nullable" Document.bool? false = some f.nullable :=
    Members.orElse_eq_some (d := .bool f.nullable) (by simp [members]) rfl
  have hDisplay : Members.optional f.members "display_name" Document.text? = some f.displayName :=
    Members.optional_unlessNone .text (by simp [members]) (fun _ _ => rfl) fun _ _ => rfl
  have hConstraints : Members.orElse f.members "constraints"
      (Document.items? (Constraint.ofDocument? .entry)) [] = some f.constraints :=
    Members.orElse_unlessEmpty Constraint.toDocument (by simp [members])
      fun c hc => Constraint.ofDocument?_toDocument (h c hc)
  have hSanitize : Members.optional f.members "sanitize" Directive.ofDocument? = some f.sanitize :=
    Members.optional_unlessNone Directive.toDocument (by simp [members]) (fun _ _ => rfl)
      fun d _ => d.ofDocument?_toDocument
  have hValidators : Members.orElse f.members "custom_validators"
      (Document.items? ValidatorRef.ofDocument?) [] = some f.validators :=
    Members.orElse_unlessEmpty ValidatorRef.toDocument (by simp [members])
      fun v _ => v.ofDocument?_toDocument
  rw [ofDocument?, read_bind hMembers, read_bind hName, read_bind hType, read_bind hNullable,
    read_bind hDisplay, read_bind hConstraints, read_bind hSanitize, read_bind hValidators]

end FieldDeclaration

namespace ModelDeclaration

def IsStorable (d : ModelDeclaration) : Prop :=
  ∀ f ∈ d.fields, f.IsStorable

def members (d : ModelDeclaration) : Members :=
  [("name", .text d.name), ("fields", .list (d.fields.map FieldDeclaration.toDocument))] ++
    unlessNone "model_hook" .text d.hook

theorem keys_members_nodup (d : ModelDeclaration) : (keys d.members).Nodup := by
  have hSublist : (keys d.members).Sublist names := by
    simp only [keys, members, List.map_append]
    exact (List.Sublist.refl _).append (Document.keys_unlessNone_sublist ..)
  exact hSublist.nodup (by decide)

theorem ofDocument?_toDocument {d : ModelDeclaration} (h : d.IsStorable) :
    ofDocument? .entry d.toDocument = some d := by
  have hMembers : d.toDocument.members? names = some d.members :=
    Document.members?_map d.members names d.keys_members_nodup
  have hName : Members.required d.members "name" Document.text? = some d.name :=
    Members.required_eq_some (d := .text d.name) (by simp [members]) rfl
  have hFields : Members.orElse d.members "fields" (Document.items? (FieldDeclaration.ofDocument? .entry)) [] =
      some d.fields :=
    Members.orElse_eq_some (d := .list (d.fields.map FieldDeclaration.toDocument)) (by simp [members])
      (Document.items?_list fun f hf => FieldDeclaration.ofDocument?_toDocument (h f hf))
  have hHook : Members.optional d.members "model_hook" Document.text? = some d.hook :=
    Members.optional_unlessNone .text (by simp [members]) (fun _ _ => rfl) fun _ _ => rfl
  rw [ofDocument?, read_bind hMembers, read_bind hName, read_bind hFields, read_bind hHook]

end ModelDeclaration
end FieldRules
