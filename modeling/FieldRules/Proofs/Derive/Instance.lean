import FieldRules.Proofs.Derive.Model
import FieldRules.Proofs.Prepared.Dynamic
import FieldRules.Proofs.Value.Views
import FieldRules.Source.Construct
import Mathlib.Data.List.Nodup

/-!
# Instances of structures

An instance fits a structure when it has a place for each field, with a value of the type that the field is
written with. Declared names lead to different places there, so that a directive on a name acts on the value
read under that name alone.
-/
set_option autoImplicit false

namespace FieldRules

namespace Derive

open Source

namespace AnnotatedModel

theorem exists_of_toOption {α : Type} {i : Item} {f : AnnotatedModel → α} {a : α}
    (h : (ofItem i).toOption.map f = some a) : ∃ m, ofItem i = .ok m ∧ f m = a := by
  obtain ⟨m, hModel, hRead⟩ := Option.map_eq_some_iff.mp h
  cases hItem : ofItem i with
  | error diagnostics =>
    rw [hItem] at hModel
    cases hModel
  | ok other =>
    rw [hItem] at hModel
    cases hModel
    exact ⟨m, rfl, hRead⟩

def Declares (m : AnnotatedModel) (f : Field) : Prop :=
  f.ident ∈ m.fields.map AnnotatedField.ident

def HasBuiltInTypes (m : AnnotatedModel) (fields : List Field) : Prop :=
  ∀ f ∈ fields, m.Declares f → ∃ s, shapeOf? f.type = some s ∧ s.isBuiltIn = true

theorem names_nodup {i : Item} {m : AnnotatedModel} (h : ofItem i = .ok m) :
    (m.fields.map AnnotatedField.name).Nodup := by
  have hNames := ModelDeclaration.names_nodup (declaration_isAccepted h)
  simpa [declaration, Function.comp_def, AnnotatedField.declaration] using hNames

theorem exists_field {i : Item} {fields : List Field} {m : AnnotatedModel} (hBody : i.body = .named fields)
    (h : ofItem i = .ok m) {a : AnnotatedField} (ha : a ∈ m.fields) :
    ∃ f ∈ fields, f.ident = a.ident ∧ m.Declares f := by
  have hIdent : a.ident ∈ m.fields.map AnnotatedField.ident := List.mem_map.mpr ⟨a, ha, rfl⟩
  obtain ⟨f, hf, hEq⟩ := List.mem_map.mp ((idents_sublist hBody h).subset hIdent)
  refine ⟨f, hf, hEq, ?_⟩
  rw [Declares, hEq]
  exact hIdent

end AnnotatedModel

namespace FieldTable

variable {i : Item} {m : AnnotatedModel}

theorem place?_of_mem (h : AnnotatedModel.ofItem i = .ok m) {a : AnnotatedField} (ha : a ∈ m.fields) :
    (ofModel m).places.get? a.name = some a.ident.spelling := by
  have hNodup : (ofModel m).places.names.Nodup := by
    simpa [ofModel, Keyed.names, Function.comp_def] using AnnotatedModel.names_nodup h
  exact Keyed.get?_of_mem hNodup (List.mem_map.mpr ⟨a, ha, rfl⟩)

theorem exists_of_place? {name place : String} (h : (ofModel m).places.get? name = some place) :
    ∃ a ∈ m.fields, a.name = name ∧ a.ident.spelling = place := by
  obtain ⟨a, ha, hEq⟩ := List.mem_map.mp (Keyed.mem_of_get? h)
  cases hEq
  exact ⟨a, ha, rfl, rfl⟩

end FieldTable

namespace Instance

theorem field_sanitizeAt (i : Instance) (place : String) (d : Directive) (other : String) :
    (i.sanitizeAt place d).field other =
      if other = place then FieldValue.sanitize d (i.field other) else i.field other := by
  have hGet : (i.sanitizeAt place d).field? other =
      (i.field? other).map fun t => if other = place then FieldValue.sanitize d t else t :=
    Keyed.get?_map i.fields (fun name t => if name = place then FieldValue.sanitize d t else t) other
  rw [field, hGet, field]
  cases i.field? other with
  | some t => rfl
  | none => split <;> rfl

theorem names_sanitizeAt (i : Instance) (place : String) (d : Directive) :
    (i.sanitizeAt place d).fields.names = i.fields.names :=
  Keyed.names_map i.fields fun name t => if name = place then FieldValue.sanitize d t else t

/-- An instance of a structure with these fields: no two of its places are the same, and the fields that take
part hold values of their types. -/
structure Fits (i : Instance) (m : AnnotatedModel) (fields : List Field) : Prop where
  table_eq : i.table = .ofModel m
  places_eq : i.fields.names = fields.map fun f => f.ident.spelling
  places_nodup : i.fields.names.Nodup
  shape : ∀ f ∈ fields, m.Declares f → shapeOf? f.type = some (i.field f.ident.spelling).shape

def typed? (m : AnnotatedModel) (i : Instance) (name : String) : Option Typed :=
  ((FieldTable.ofModel m).places.get? name).map i.field

theorem typed?_of_mem {item : Item} {m : AnnotatedModel} (hModel : AnnotatedModel.ofItem item = .ok m) {i : Instance}
    {a : AnnotatedField} (ha : a ∈ m.fields) : typed? m i a.name = some (i.field a.ident.spelling) := by
  rw [typed?, FieldTable.place?_of_mem hModel ha]
  rfl

namespace Fits

variable {i : Instance} {m : AnnotatedModel} {fields : List Field}

theorem read_eq_typed? (h : i.Fits m fields) (name : String) :
    Record.read i name = ((typed? m i name).map FieldValue.toValue).getD .null := by
  have hValue : Record.fieldValue? i name =
      (i.table.places.get? name).map fun place => FieldValue.toValue (i.field place) := rfl
  rw [Record.read, hValue, h.table_eq, typed?, Option.map_map]
  rfl

theorem sanitizeAt (h : i.Fits m fields) (place : String) (d : Directive) :
    (i.sanitizeAt place d).Fits m fields where
  table_eq := h.table_eq
  places_eq := (names_sanitizeAt i place d).trans h.places_eq
  places_nodup := (names_sanitizeAt i place d).symm ▸ h.places_nodup
  shape f hf hDeclares := by
    rw [h.shape f hf hDeclares, field_sanitizeAt]
    split
    · rw [Typed.sanitize_shape]
    · rfl

section Model

variable {item : Item} (hBody : item.body = .named fields) (hModel : AnnotatedModel.ofItem item = .ok m)
  (h : i.Fits m fields)

include hBody hModel h

theorem spelling_inj {a b : AnnotatedField} (ha : a ∈ m.fields) (hb : b ∈ m.fields)
    (hEq : a.ident.spelling = b.ident.spelling) : a = b := by
  have hStructure : (fields.map fun f => f.ident.spelling).Nodup := h.places_eq ▸ h.places_nodup
  have hSublist := (AnnotatedModel.idents_sublist hBody hModel).map Ident.spelling
  rw [List.map_map, List.map_map] at hSublist
  exact List.inj_on_of_nodup_map (hSublist.nodup hStructure) ha hb hEq

theorem isBuiltIn_field (hTypes : m.HasBuiltInTypes fields) {a : AnnotatedField} (ha : a ∈ m.fields) :
    (i.field a.ident.spelling).shape.isBuiltIn = true := by
  obtain ⟨f, hf, hIdent, hDeclares⟩ := AnnotatedModel.exists_field hBody hModel ha
  obtain ⟨s, hShape, hBuiltIn⟩ := hTypes f hf hDeclares
  rw [h.shape f hf hDeclares, hIdent] at hShape
  cases hShape
  exact hBuiltIn

omit hBody in
theorem read_eq {a : AnnotatedField} (ha : a ∈ m.fields) :
    Record.read i a.name = FieldValue.toValue (i.field a.ident.spelling) := by
  rw [h.read_eq_typed?, typed?_of_mem hModel ha]
  rfl

omit hBody in
theorem sanitized_eq {a : AnnotatedField} (ha : a ∈ m.fields) (d : Directive) :
    Record.sanitized i a.name d = i.sanitizeAt a.ident.spelling d := by
  have hField : Record.sanitizeField? i a.name d =
      (i.table.places.get? a.name).map fun place => i.sanitizeAt place d := rfl
  rw [Record.sanitized, hField, h.table_eq, FieldTable.place?_of_mem hModel ha]
  rfl

end Model

theorem sanitized_of_undeclared (h : i.Fits m fields) {name : String}
    (hName : (FieldTable.ofModel m).places.get? name = none) (d : Directive) :
    Record.sanitized i name d = i := by
  have hField : Record.sanitizeField? i name d =
      (i.table.places.get? name).map fun place => i.sanitizeAt place d := rfl
  rw [Record.sanitized, hField, h.table_eq, hName]
  rfl

theorem sanitized {item : Item} (h : i.Fits m fields) (hModel : AnnotatedModel.ofItem item = .ok m) (name : String)
    (d : Directive) : (Record.sanitized i name d).Fits m fields := by
  cases hName : (FieldTable.ofModel m).places.get? name with
  | none => rwa [h.sanitized_of_undeclared hName d]
  | some place =>
    obtain ⟨a, ha, rfl, rfl⟩ := FieldTable.exists_of_place? hName
    rw [h.sanitized_eq hModel ha d]
    exact h.sanitizeAt a.ident.spelling d

/-- Of all names only the one of the field itself leads to another value after a directive on its place. -/
theorem typed?_sanitizeAt {item : Item} (h : i.Fits m fields) (hBody : item.body = .named fields)
    (hModel : AnnotatedModel.ofItem item = .ok m) {a : AnnotatedField} (ha : a ∈ m.fields) (d : Directive)
    (other : String) :
    typed? m (i.sanitizeAt a.ident.spelling d) other =
      if other = a.name then (typed? m i other).map (FieldValue.sanitize d) else typed? m i other := by
  have hPlace := FieldTable.place?_of_mem hModel ha
  cases hOther : (FieldTable.ofModel m).places.get? other with
  | none =>
    have hNe : other ≠ a.name := by
      rintro rfl
      rw [hPlace] at hOther
      cases hOther
    rw [if_neg hNe, typed?, typed?, hOther]
    rfl
  | some _ =>
    obtain ⟨b, hb, rfl, rfl⟩ := FieldTable.exists_of_place? hOther
    rw [typed?_of_mem hModel hb, typed?_of_mem hModel hb, field_sanitizeAt]
    by_cases hEq : b.ident.spelling = a.ident.spelling
    · obtain rfl := h.spelling_inj hBody hModel hb ha hEq
      rw [if_pos rfl, if_pos rfl]
      rfl
    · have hNe : b.name ≠ a.name := by
        intro hNames
        rw [hNames, hPlace] at hOther
        exact hEq (Option.some.inj hOther).symm
      rw [if_neg hEq, if_neg hNe]

end Fits

section Views

variable {item : Item} {m : AnnotatedModel} {fields : List Field} (hBody : item.body = .named fields)
  (hModel : AnnotatedModel.ofItem item = .ok m)

include hBody hModel

/-- Each name leads to a place of its own, where a directive acts on the typed value; a name that is not declared is
left alone. -/
theorem actsAt_typed? : Record.ActsAt (fun i : Instance => i.Fits m fields) (typed? m)
    fun d t => t.map (FieldValue.sanitize d) where
  keeps i name d hi := hi.sanitized hModel name d
  view_eq i name d other hi := by
    cases hName : (FieldTable.ofModel m).places.get? name with
    | none =>
      rw [hi.sanitized_of_undeclared hName d]
      split
      · next hEq =>
        rw [hEq, typed?, hName]
        rfl
      · rfl
    | some place =>
      obtain ⟨a, ha, rfl, rfl⟩ := FieldTable.exists_of_place? hName
      rw [hi.sanitized_eq hModel ha d, hi.typed?_sanitizeAt hBody hModel ha d other]

/-- Where a name leads to, a directive does to the typed value what it does to the dynamic one. -/
theorem actsAt_read (hTypes : m.HasBuiltInTypes fields) :
    Record.ActsAt (fun i : Instance => i.Fits m fields) Record.read fun d v => v.sanitize d where
  keeps i name d hi := hi.sanitized hModel name d
  view_eq i name d other hi := by
    have hTyped := (actsAt_typed? hBody hModel).view_eq i name d other hi
    rw [(hi.sanitized hModel name d).read_eq_typed?, hi.read_eq_typed?, hTyped]
    split
    · cases hPlace : (FieldTable.ofModel m).places.get? other with
      | none =>
        rw [typed?, hPlace]
        exact (Value.sanitize_null d).symm
      | some place =>
        obtain ⟨a, ha, rfl, rfl⟩ := FieldTable.exists_of_place? hPlace
        rw [typed?_of_mem hModel ha]
        exact Typed.sanitizesAsValue (hi.isBuiltIn_field hBody hModel hTypes ha) d
    · rfl

end Views

/-- Sanitizing an instance leaves it one of its structure, and each declared field reads as its old value under
the directive of the field. -/
theorem Fits.sanitize {item : Item} {i : Instance} {m : AnnotatedModel} {fields : List Field}
    (h : i.Fits m fields) (hBody : item.body = .named fields) (hModel : AnnotatedModel.ofItem item = .ok m)
    (hTypes : m.HasBuiltInTypes fields) :
    (PreparedModel.sanitize (Plan.ofDeclaration m.declaration) i).Fits m fields ∧
    ∀ f ∈ m.declaration.fields,
      Record.read (PreparedModel.sanitize (Plan.ofDeclaration m.declaration) i) f.name =
        f.clean (Record.read i f.name) := by
  have hNames := ModelDeclaration.names_nodup (AnnotatedModel.declaration_isAccepted hModel)
  obtain ⟨hKept, hRead, -⟩ := (actsAt_read hBody hModel hTypes).view_foldl m.declaration.fields hNames i h
  rw [PreparedModel.sanitize_eq_foldl]
  exact ⟨hKept, fun f hf => (hRead f hf).trans (f.clean_eq_elim _).symm⟩

end Instance

end Derive

/-! A structure with the declaration of `Signup`. Its picture, of a type of the user's own, takes no part. -/

namespace Signup

open Source Derive

def rules (content : List Tree) : Attribute :=
  ⟨.start, false, [attributeName], .list content .start⟩

def given (name : String) (value : List Tree) : List Tree :=
  word name ++ punct "=" ++ value

def nick : Field :=
  { attributes :=
      [rules (word "sanitize" ++ parens (word "trim")),
        rules (separate [word "required", given "custom" (word "known")])]
    ident := ⟨.start, false, "nick"⟩
    type := .path "Option" [some (.path "Box" [some (.path "String" [])])] }

def age : Field :=
  { attributes :=
      [rules (word "conditional_range" ++ parens (separate
        [given "field" (textLiteral "nick"), given "equals" (textLiteral "root"),
          given "min" (intLiteral 1 ""), given "max" (intLiteral 3 ""),
          given "message_key" (textLiteral "age.range"), given "group" (textLiteral "late")]))]
    ident := ⟨.start, false, "age"⟩
    type := .path "u128" [] }

def picture : Field :=
  { attributes := []
    ident := ⟨.start, false, "picture"⟩
    type := .path "Picture" [] }

def fields : List Field :=
  [nick, age, picture]

def item (attributes : List Attribute) : Item :=
  { attributes
    ident := ⟨.start, false, "Signup"⟩
    generics := ⟨[], []⟩
    body := .named fields }

structure IsModel (m : AnnotatedModel) (hook : Option String) : Prop where
  declaration_eq : m.declaration = declaration hook
  idents_eq : m.fields.map AnnotatedField.ident = [nick.ident, age.ident]

theorem exists_model {attributes : List Attribute} {hook : Option String}
    (h : ((AnnotatedModel.ofItem (item attributes)).toOption.map fun m =>
      (m.declaration, m.fields.map AnnotatedField.ident)) = some (declaration hook, [nick.ident, age.ident])) :
    ∃ m, AnnotatedModel.ofItem (item attributes) = .ok m ∧ IsModel m hook := by
  obtain ⟨m, hModel, hEq⟩ := AnnotatedModel.exists_of_toOption h
  exact ⟨m, hModel, congrArg Prod.fst hEq, congrArg Prod.snd hEq⟩

theorem IsModel.hasBuiltInTypes {m : AnnotatedModel} {hook : Option String} (h : IsModel m hook) :
    m.HasBuiltInTypes fields := by
  intro f hf hDeclares
  rw [AnnotatedModel.Declares, h.idents_eq] at hDeclares
  rcases List.mem_cons.mp hf with rfl | hf
  · exact ⟨.option (.boxed .text), rfl, rfl⟩
  rcases List.mem_cons.mp hf with rfl | hf
  · exact ⟨.int (.unsigned 128), rfl, rfl⟩
  · obtain rfl := List.mem_singleton.mp hf
    exact absurd hDeclares (by decide)

/-- A text with blanks around it and a number that no 64 bits hold. -/
def start (m : AnnotatedModel) : Instance :=
  { table := .ofModel m
    fields :=
      [("nick", ⟨.option (.boxed .text), some ⟨" root "⟩⟩),
        ("age", ⟨.int (.unsigned 128), ⟨(IntKind.unsigned 128).greatest, by decide⟩⟩),
        ("picture", ⟨.custom, ⟨.null⟩⟩)] }

theorem start_fits (m : AnnotatedModel) : (start m).Fits m fields where
  table_eq := rfl
  places_eq := rfl
  places_nodup := show ["nick", "age", "picture"].Nodup by decide
  shape f hf _ := by
    rcases List.mem_cons.mp hf with rfl | hf
    · rfl
    rcases List.mem_cons.mp hf with rfl | hf
    · rfl
    · obtain rfl := List.mem_singleton.mp hf
      rfl

end Signup
end FieldRules
