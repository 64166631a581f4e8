import FieldRules.Proofs.Derive.Commands
import FieldRules.Proofs.Derive.Emitted

/-!
# The view of a model in generated code

The record of a model is written as choices by the name of a field. Read from the code, they give the values and
take the directives that the record of an instance does.
-/
set_option autoImplicit false

namespace FieldRules.Derive

open Source

/-- An arm of a choice by name. The arm for all other names has no name itself. -/
def arm? : List Tree → Option (Option String × List Tree)
  | .literal _ ⟨_, .text s⟩ :: .mark _ '=' _ :: .mark _ '>' _ :: body => some (some s, body)
  | .name _ false "_" :: .mark _ '=' _ :: .mark _ '>' _ :: body => some (none, body)
  | _ => none

def arms? (content : List Tree) : Option (List (Option String × List Tree)) :=
  match cut endsArm [] content with
  | (pieces, []) => pieces.mapM arm?
  | _ => none

/-- The body of the first arm that a name fits. -/
def armFor? (name : String) (arms : List (Option String × List Tree)) : Option (List Tree) :=
  (arms.find? fun a => a.1.all (· == name)).map Prod.snd

def choice? (name : String) : List Tree → Option (List Tree)
  | [.name _ false "match", .name _ false "__name", .group _ _ .brace content] => (arms? content).bind (armFor? name)
  | _ => none

def armValue? (i : Instance) (body : List Tree) : Option (Option Value) :=
  match pathNames body with
  | (["core", "option", "Option", "None"], [.mark _ ',' _]) => some none
  | (["core", "option", "Option", "Some"], [.group _ _ .paren content, .mark _ ',' _]) =>
    match pathNames content with
    | (["precheck", "FieldValue", "to_value"], [.group _ _ .paren subject]) =>
      (placeRef? subject).map fun place => some (FieldValue.toValue (i.field place))
    | _ => none
  | _ => none

def armSanitized? (i : Instance) (d : Directive) : List Tree → Option (Option Instance)
  | [.name _ false "false", .mark _ ',' _] => some none
  | [.group _ _ .brace block] =>
    match pathNames block with
    | (["precheck", "FieldValue", "sanitize"], [.group _ _ .paren content, .mark _ ';' _, .name _ false "true"]) =>
      match parts content with
      | [subject, [.name _ false "__directive"]] => (placeMut? subject).map fun place => some (i.sanitizeAt place d)
      | _ => none
    | _ => none
  | _ => none

/-- Code that implements the record of an instance. -/
structure IsRecordOf (i : Instance) (code : List Tree) : Prop where
  modelName : (bodyOf? "model_name" code).bind (Form.read? Form.text?) = some (Record.modelName i)
  fieldValue (name : String) : ((bodyOf? "field_value" code).bind (choice? name)).bind (armValue? i) =
    some (Record.fieldValue? i name)
  sanitizeField (name : String) (d : Directive) :
    ((bodyOf? "sanitize_field" code).bind (choice? name)).bind (armSanitized? i d) =
      some (Record.sanitizeField? i name d)

namespace Code

/-- The body of an arm: trees that no arm ends at, and its end. -/
def IsArmBody (body : List Tree) : Prop :=
  ∃ front last, body = front ++ [last] ∧ IsSeamless front ∧ endsArm [] last = true

theorem IsArmBody.cut_append {body : List Tree} (h : IsArmBody body) (pattern : Tree)
    (hPattern : isSeam pattern = false) (rest : List Tree) :
    cut endsArm [] ([pattern] ++ arrow ++ body ++ rest) =
      (([pattern] ++ arrow ++ body) :: (cut endsArm [] rest).1, (cut endsArm [] rest).2) := by
  obtain ⟨front, last, rfl, hFront, hLast⟩ := h
  have hArrow : IsSeamless arrow := IsSeamless.append (.single rfl) (.single rfl)
  have hRuns := (((IsSeamless.single hPattern).append hArrow).append hFront).runsArm []
  rw [← List.append_assoc]
  exact hRuns.cut_piece hLast rest

section Choice

variable {body : AnnotatedField → List Tree} (hBody : ∀ f, IsArmBody (body f)) {other : List Tree}
  (hOther : IsArmBody other)

def armOf (body : AnnotatedField → List Tree) (f : AnnotatedField) : List Tree :=
  textLiteral f.name ++ arrow ++ body f

include hBody hOther

theorem cut_arms (fields : List AnnotatedField) :
    cut endsArm [] (fields.flatMap (armOf body) ++ (word "_" ++ arrow ++ other)) =
      (fields.map (armOf body) ++ [word "_" ++ arrow ++ other], []) := by
  induction fields with
  | nil =>
    have hCut := hOther.cut_append (.name .start false "_") rfl []
    rwa [List.append_nil] at hCut
  | cons f rest ih =>
    have hCut := (hBody f).cut_append (.literal .start ⟨Text.Quoted.encode f.name, .text f.name⟩) rfl
      (rest.flatMap (armOf body) ++ (word "_" ++ arrow ++ other))
    rw [ih] at hCut
    rw [List.flatMap_cons, List.append_assoc]
    exact hCut

theorem choice?_byName (fields : List AnnotatedField) (name : String) :
    choice? name (byName (fields.flatMap (armOf body) ++ (word "_" ++ arrow ++ other))) =
      some (((fields.find? (·.name == name)).map body).getD other) := by
  have hArms : (fields.map (armOf body) ++ [word "_" ++ arrow ++ other]).mapM arm? =
      some (fields.map (fun f => (some f.name, body f)) ++ [(none, other)]) := by
    have hFields : (fields.map (armOf body)).mapM arm? = some (fields.map fun f => (some f.name, body f)) :=
      mapM_map fun f _ => rfl
    rw [List.mapM_append, hFields]
    rfl
  have hRead (content : List Tree) : choice? name (byName content) = (arms? content).bind (armFor? name) := rfl
  have hRun : arms? (fields.flatMap (armOf body) ++ (word "_" ++ arrow ++ other)) =
      some (fields.map (fun f => (some f.name, body f)) ++ [(none, other)]) := by
    rw [arms?, cut_arms hBody hOther]
    exact hArms
  rw [hRead, hRun, Option.bind_some, armFor?, List.find?_append, List.find?_map]
  have hNames : ((fun a : Option String × List Tree => a.1.all (· == name)) ∘
      fun f : AnnotatedField => (some f.name, body f)) = fun f => f.name == name := rfl
  rw [hNames]
  cases fields.find? (·.name == name) <;> rfl

/-- What comes of a choice is what comes of the arm of the first field with the name. -/
theorem choice?_bind {α : Type} {run : List Tree → Option (Option α)} {value : AnnotatedField → α}
    (hRun : ∀ f, run (body f) = some (some (value f))) (hOtherRun : run other = some none)
    (fields : List AnnotatedField) (name : String) :
    (choice? name (byName (fields.flatMap (armOf body) ++ (word "_" ++ arrow ++ other)))).bind run =
      some ((fields.find? (·.name == name)).map value) := by
  rw [choice?_byName hBody hOther, Option.bind_some]
  cases fields.find? (·.name == name) with
  | none => exact hOtherRun
  | some f => exact hRun f

end Choice

theorem bodyOf?_modelName (m : AnnotatedModel) : bodyOf? "model_name" (record m) = some (textLiteral m.name) := by
  rw [record, braces, bodyOf?, List.getLast?_append]
  rfl

theorem bodyOf?_fieldValue (m : AnnotatedModel) :
    bodyOf? "field_value" (record m) = some (byName (m.fields.flatMap readArm ++ otherArm noneOf)) := by
  rw [record, braces, bodyOf?, List.getLast?_append]
  rfl

theorem bodyOf?_sanitizeField (m : AnnotatedModel) :
    bodyOf? "sanitize_field" (record m) =
      some (byName (m.fields.flatMap sanitizeArm ++ otherArm (word "false"))) := by
  rw [record, braces, bodyOf?, List.getLast?_append]
  rfl

theorem place?_eq_find? (m : AnnotatedModel) (name : String) :
    (FieldTable.ofModel m).places.get? name = (m.fields.find? (·.name == name)).map (·.ident.spelling) := by
  rw [FieldTable.ofModel]
  induction m.fields with
  | nil => rfl
  | cons f rest ih =>
    rw [List.map_cons, Keyed.get?, List.find?_cons]
    by_cases hName : f.name = name
    · simp [hName]
    · rw [if_neg hName, ih, beq_false_of_ne hName]

theorem map_place? {α : Type} {m : AnnotatedModel} {i : Instance} (h : i.table = .ofModel m) (name : String)
    (g : String → α) :
    (i.table.places.get? name).map g = (m.fields.find? (·.name == name)).map fun f => g f.ident.spelling := by
  rw [h, place?_eq_find?]
  exact Option.map_map ..

section Arms

variable (i : Instance) (f : AnnotatedField)

/-- The value of a field, as its arm gives it. -/
def readBody : List Tree :=
  someOf (call (libraryPath ["FieldValue", "to_value"]) [placeRef f.ident.spelling]) ++ punct ","

def sanitizeBody : List Tree :=
  let sanitize := call (libraryPath ["FieldValue", "sanitize"])
    [placeMut f.ident.spelling, word "__directive"]
  braces (sanitize ++ punct ";" ++ word "true")

theorem readArm_eq : readArm f = armOf readBody f :=
  List.append_assoc ..

theorem sanitizeArm_eq : sanitizeArm f = armOf sanitizeBody f :=
  rfl

theorem armValue?_readBody : armValue? i (readBody f) = some (some (FieldValue.toValue (i.field f.ident.spelling))) :=
  rfl

theorem armSanitized?_sanitizeBody (d : Directive) :
    armSanitized? i d (sanitizeBody f) = some (some (i.sanitizeAt f.ident.spelling d)) :=
  rfl

theorem isArmBody_readBody : IsArmBody (readBody f) :=
  ⟨_, _, rfl, isSeamless_call _ _, rfl⟩

theorem isArmBody_sanitizeBody : IsArmBody (sanitizeBody f) :=
  ⟨[], _, rfl, fun _ ht => absurd ht List.not_mem_nil, rfl⟩

end Arms

/-- The code for the record of a model implements the record of its instances. -/
theorem isRecordOf_record {m : AnnotatedModel} {i : Instance} (h : i.table = .ofModel m) :
    IsRecordOf i (record m) where
  modelName := by
    have hName : Record.modelName i = m.name := congrArg FieldTable.model h
    rw [bodyOf?_modelName, hName]
    exact Form.read?_text m.name
  fieldValue name := by
    have hNone : IsArmBody (noneOf ++ punct ",") := ⟨noneOf, _, rfl, .rooted _, rfl⟩
    have hFound : Record.fieldValue? i name =
        (m.fields.find? (·.name == name)).map fun f => FieldValue.toValue (i.field f.ident.spelling) :=
      map_place? h name _
    rw [bodyOf?_fieldValue, Option.bind_some, otherArm, List.append_assoc (word "_" ++ arrow), funext readArm_eq,
      hFound]
    exact choice?_bind isArmBody_readBody hNone (armValue?_readBody i) rfl m.fields name
  sanitizeField name d := by
    have hFalse : IsArmBody (word "false" ++ punct ",") := ⟨word "false", _, rfl, .single rfl, rfl⟩
    have hFound : Record.sanitizeField? i name d =
        (m.fields.find? (·.name == name)).map fun f => i.sanitizeAt f.ident.spelling d :=
      map_place? h name _
    rw [bodyOf?_sanitizeField, Option.bind_some, otherArm, List.append_assoc (word "_" ++ arrow),
      funext sanitizeArm_eq, hFound]
    exact choice?_bind isArmBody_sanitizeBody hFalse (fun f => armSanitized?_sanitizeBody i f d) rfl m.fields name

end Code
end FieldRules.Derive
