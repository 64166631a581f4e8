import FieldRules.Proofs.Derive.Instance
import FieldRules.Proofs.Value.Sanitized

/-!
# Settled records

A validation sanitizes a record once: validated again, it stays as the first validation left it. The one exception is
a text with a capital sharp s under a directive that asks for upper and for lower case.
-/
set_option autoImplicit false

namespace FieldRules

theorem Keyed.insert_of_get? {α : Type} {entries : Keyed α} {name : String} {a : α}
    (h : entries.get? name = some a) : entries.insert name a = entries := by
  induction entries with
  | nil => cases h
  | cons e rest ih =>
    obtain ⟨n, b⟩ := e
    rw [get?] at h
    rw [insert]
    split
    · next hName =>
      rw [if_pos hName] at h
      cases h
      rfl
    · next hName =>
      rw [if_neg hName] at h
      rw [ih h]

/-- The directive of a field, if it has one, does not respell a sharp s of a text. -/
def FieldDeclaration.LeavesSharp (f : FieldDeclaration) (v : Value) : Prop :=
  ∀ d, f.directive? = some d → ∀ s, v = .text s → ¬d.RespellsSharp s

namespace Record

variable {ρ β : Type} [Record ρ]

theorem foldl_applyTo_of_forall {fields : List FieldDeclaration} {r : ρ} (h : ∀ f ∈ fields, f.applyTo r = r) :
    fields.foldl (fun r f => f.applyTo r) r = r := by
  induction fields with
  | nil => rfl
  | cons f rest ih =>
    rw [List.foldl_cons, h f List.mem_cons_self]
    exact ih fun g hg => h g (List.mem_cons_of_mem f hg)

/-- If a directive on a view that it has acted on changes nothing of a record, then neither do the directives of all
fields once they have acted. -/
theorem ActsAt.foldl_foldl {P : ρ → Prop} {view : ρ → String → β} {act : Directive → β → β}
    (h : ActsAt P view act) (hSelf : ∀ r name d, P r → act d (view r name) = view r name → sanitized r name d = r)
    {fields : List FieldDeclaration} (hNodup : (fields.map FieldDeclaration.name).Nodup) {r : ρ} (hr : P r)
    (hSettled : ∀ f ∈ fields, ∀ d, f.directive? = some d →
      act d (act d (view r f.name)) = act d (view r f.name)) :
    fields.foldl (fun r f => f.applyTo r) (fields.foldl (fun r f => f.applyTo r) r) =
      fields.foldl (fun r f => f.applyTo r) r := by
  obtain ⟨hKept, hView, -⟩ := h.view_foldl fields hNodup r hr
  refine foldl_applyTo_of_forall fun f hf => ?_
  have hField := hView f hf
  rw [FieldDeclaration.applyTo]
  cases hDirective : f.directive? with
  | none => rfl
  | some d =>
    rw [hDirective, Option.elim_some] at hField
    exact hSelf _ f.name d hKept (by rw [hField, hSettled f hf d hDirective])

end Record

namespace DynamicRecord

theorem sanitized_of_settled {r : DynamicRecord} {name : String} {d : Directive}
    (h : (r.get? name).map (Value.sanitize d) = r.get? name) : Record.sanitized r name d = r := by
  rw [sanitized_eq]
  cases hGet : r.get? name with
  | none => rfl
  | some v =>
    rw [hGet, Option.map_some] at h
    rw [Option.map_some, Option.getD_some, set, Option.some.inj h, Keyed.insert_of_get? hGet]

theorem sanitize_settles {d : ModelDeclaration} (hNodup : (d.fields.map FieldDeclaration.name).Nodup)
    {r : DynamicRecord} (h : ∀ f ∈ d.fields, f.LeavesSharp (Record.read r f.name)) :
    PreparedModel.sanitize (Plan.ofDeclaration d) (PreparedModel.sanitize (Plan.ofDeclaration d) r) =
      PreparedModel.sanitize (Plan.ofDeclaration d) r := by
  simp only [PreparedModel.sanitize_eq_foldl]
  refine r.actsAt_get?.foldl_foldl (fun _ _ _ _ => sanitized_of_settled) hNodup ⟨rfl, rfl⟩ ?_
  intro f hf directive hSome
  have hLeaves := h f hf directive hSome
  rw [read_eq] at hLeaves
  cases hGet : r.get? f.name with
  | none => rfl
  | some v =>
    rw [hGet, Option.getD_some] at hLeaves
    rw [Option.map_some, Option.map_some, Value.sanitize_sanitize hLeaves]

end DynamicRecord

namespace Derive.Instance

open Source

theorem sanitizeAt_of_settled {i : Instance} (hNodup : i.fields.names.Nodup) {place : String} {d : Directive}
    (h : FieldValue.sanitize d (i.field place) = i.field place) : i.sanitizeAt place d = i := by
  have hEntry : ∀ e ∈ i.fields, (e.1, if e.1 = place then FieldValue.sanitize d e.2 else e.2) = e := by
    rintro ⟨name, t⟩ he
    split
    · next hName =>
      have hField : i.field place = t := by
        rw [field, field?, ← hName, Keyed.get?_of_mem hNodup he, Option.getD_some]
      rw [← hField, h]
    · rfl
  rw [sanitizeAt]
  congr 1
  exact (List.map_congr_left hEntry).trans (List.map_id _)

section Model

variable {item : Item} {m : AnnotatedModel} {fields : List Field} (hBody : item.body = .named fields)
  (hModel : AnnotatedModel.ofItem item = .ok m)

include hModel

theorem sanitized_of_settled {i : Instance} (hi : i.Fits m fields) {name : String} {d : Directive}
    (h : (typed? m i name).map (FieldValue.sanitize d) = typed? m i name) : Record.sanitized i name d = i := by
  cases hName : (FieldTable.ofModel m).places.get? name with
  | none => exact hi.sanitized_of_undeclared hName d
  | some place =>
    obtain ⟨a, ha, rfl, rfl⟩ := FieldTable.exists_of_place? hName
    rw [typed?_of_mem hModel ha, Option.map_some] at h
    rw [hi.sanitized_eq hModel ha d]
    exact sanitizeAt_of_settled hi.places_nodup (Option.some.inj h)

include hBody

theorem Fits.sanitize_settles {i : Instance} (hi : i.Fits m fields)
    (h : ∀ f ∈ m.declaration.fields, f.LeavesSharp (Record.read i f.name)) :
    PreparedModel.sanitize (Plan.ofDeclaration m.declaration)
        (PreparedModel.sanitize (Plan.ofDeclaration m.declaration) i) =
      PreparedModel.sanitize (Plan.ofDeclaration m.declaration) i := by
  have hNodup := ModelDeclaration.names_nodup (AnnotatedModel.declaration_isAccepted hModel)
  simp only [PreparedModel.sanitize_eq_foldl]
  refine (actsAt_typed? hBody hModel).foldl_foldl (fun _ _ _ hi => sanitized_of_settled hModel hi) hNodup hi ?_
  intro f hf d hDirective
  obtain ⟨a, ha, rfl⟩ := List.mem_map.mp hf
  have hLeaves := h _ hf d hDirective
  change ∀ s, Record.read i a.name = .text s → _ at hLeaves
  rw [hi.read_eq hModel ha] at hLeaves
  change ((typed? m i a.name).map _).map _ = (typed? m i a.name).map _
  rw [typed?_of_mem hModel ha]
  exact congrArg (fun x => some (Typed.mk _ x)) (Shape.sanitize_sanitize _ hLeaves)

end Model

end Derive.Instance

namespace PreparedModel

open Source Derive
open AnnotatedModel (ofItem)

/-- A directive leaves alone what it made of a text, exactly unless it respells a sharp s of the text. So a record that
is validated again is not changed again, whether its fields are dynamic or those of a structure. -/
theorem sanitizes_once :
    (∀ (d : Directive) (s : String), d.changed? ((d.changed? s).getD s) = none ↔ ¬d.RespellsSharp s) ∧
    (∀ (d : ModelDeclaration) (validators : ValidatorSet) (p : PreparedModel), prepare d validators = .ok p →
      ∀ r : DynamicRecord, (∀ f ∈ d.fields, f.LeavesSharp (Record.read r f.name)) → ∀ first second : Context,
        (p.run (p.run r first).record second).record = (p.run r first).record) ∧
    ∀ (item : Item) (fields : List Field) (m : AnnotatedModel) (validators : ValidatorSet) (p : PreparedModel),
      item.body = .named fields → ofItem item = .ok m → prepare m.declaration validators = .ok p →
      ∀ i : Instance, i.Fits m fields → (∀ f ∈ m.declaration.fields, f.LeavesSharp (Record.read i f.name)) →
      ∀ first second : Context, (p.run (p.run i first).record second).record = (p.run i first).record := by
  refine ⟨fun d s => ?_, ?_, ?_⟩
  · rw [Directive.changed?_getD, Directive.changed?_eq_none_iff, Directive.clean_clean_iff]
  · intro d validators p hPrepared r hLeaves _ _
    obtain ⟨hAccepted, -, rfl⟩ := (prepare_eq_ok_iff d validators p).mp hPrepared
    exact DynamicRecord.sanitize_settles (ModelDeclaration.names_nodup hAccepted) hLeaves
  · intro item fields m validators p hBody hModel hPrepared i hFits hLeaves _ _
    obtain ⟨-, -, rfl⟩ := (prepare_eq_ok_iff m.declaration validators p).mp hPrepared
    exact hFits.sanitize_settles hBody hModel hLeaves

theorem leavesSharp_signup (v : Value) : ∀ f ∈ (Signup.declaration none).fields, f.LeavesSharp v := by
  have hUpper : ∀ f ∈ (Signup.declaration none).fields, ∀ d, f.directive? = some d → d.upper = false := by
    simp [Signup.declaration, FieldDeclaration.directive?, Directive.none, Directive.isNoop]
  intro f hf d hDirective s _ hSharp
  exact Bool.false_ne_true ((hUpper f hf d hDirective).symm.trans hSharp.1)

/-- A final sigma stays final, and two letters for a sharp s stay two letters. -/
theorem sanitizes_once_signup :
    (Directive.changed? ⟨true, true, true⟩ " ΟΔΟΣ ß" = some "οδος ss" ∧
      Directive.changed? ⟨true, true, true⟩ "οδος ss" = none) ∧
    ∃ m, ofItem (Signup.item []) = .ok m ∧ (Signup.start m).Fits m Signup.fields ∧
      let p := PreparedModel.ofDeclaration (Signup.declaration none) Signup.validators
      (p.run (p.run Signup.record Signup.context).record Signup.context).record =
        (p.run Signup.record Signup.context).record ∧
      (p.run (p.run (Signup.start m) Signup.context).record Signup.context).record =
        (p.run (Signup.start m) Signup.context).record := by
  have hChanged : Directive.changed? ⟨true, true, true⟩ " ΟΔΟΣ ß" = some "οδος ss" := by decide +kernel
  have hAgain := (sanitizes_once.1 ⟨true, true, true⟩ " ΟΔΟΣ ß").mpr fun h => absurd h.2.2 (by decide)
  rw [hChanged] at hAgain
  obtain ⟨m, hModel, hIs⟩ : ∃ m, ofItem (Signup.item []) = .ok m ∧ Signup.IsModel m none :=
    Signup.exists_model (by decide +kernel)
  have hPrepared := Signup.prepare_declaration (.inl rfl)
  have hTyped : prepare m.declaration Signup.validators =
      .ok (.ofDeclaration (Signup.declaration none) Signup.validators) := by
    rw [hIs.declaration_eq]
    exact hPrepared
  have hLeaves : ∀ f ∈ m.declaration.fields, f.LeavesSharp (Record.read (Signup.start m) f.name) := by
    rw [hIs.declaration_eq]
    exact fun f => leavesSharp_signup _ f
  refine ⟨⟨hChanged, hAgain⟩, m, hModel, Signup.start_fits m, ?_, ?_⟩
  · exact sanitizes_once.2.1 _ _ _ hPrepared _ (fun f => leavesSharp_signup _ f) _ _
  · exact sanitizes_once.2.2 _ _ _ _ _ rfl hModel hTyped _ (Signup.start_fits m) hLeaves _ _

end PreparedModel

/-- The small sharp s that is left of a capital one is two letters after the next time. -/
theorem Directive.changed?_sharp :
    Directive.changed? ⟨false, true, true⟩ "\u1E9E" = some "ß" ∧
      Directive.changed? ⟨false, true, true⟩ "ß" = some "ss" := by
  decide +kernel

end FieldRules
