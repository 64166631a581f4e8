import FieldRules.Proofs.Declaration.Defects
import FieldRules.Proofs.Prepared.Expected
import FieldRules.Proofs.Record.Sanitized

/-!
# Reduced declarations

A declaration reduces another if it has the same fields, in any order, and on them no rules or validators but
those of the other. What reduces an accepted declaration is accepted, and it is prepared wherever the other is.
-/
set_option autoImplicit false

namespace FieldRules

theorem flatMap_filter_of_nil {α β : Type} {p : α → Bool} {f : α → List β} (items : List α)
    (h : ∀ a ∈ items, p a = false → f a = []) : (items.filter p).flatMap f = items.flatMap f := by
  induction items with
  | nil => rfl
  | cons a rest ih =>
    have hRest := ih fun b hb => h b (List.mem_cons_of_mem a hb)
    cases hKept : p a with
    | true => rw [List.filter_cons_of_pos hKept, List.flatMap_cons, List.flatMap_cons, hRest]
    | false =>
      rw [List.filter_cons_of_neg (by simp [hKept]), List.flatMap_cons, h a List.mem_cons_self hKept, hRest,
        List.nil_append]

structure FieldDeclaration.Reduces (g f : FieldDeclaration) : Prop where
  name_eq : g.name = f.name
  fieldType_eq : g.fieldType = f.fieldType
  rules : ∀ c ∈ g.constraints, ∃ c' ∈ f.constraints, c'.rule = c.rule
  validators : ∀ w ∈ g.validators, w ∈ f.validators

theorem FieldDeclaration.Reduces.refl (f : FieldDeclaration) : f.Reduces f :=
  ⟨rfl, rfl, fun c hc => ⟨c, hc, rfl⟩, fun _ hw => hw⟩

structure ModelDeclaration.Reduces (e d : ModelDeclaration) : Prop where
  name_eq : e.name = d.name
  hook_eq : e.hook = d.hook
  names_perm : (e.fields.map FieldDeclaration.name).Perm (d.fields.map FieldDeclaration.name)
  fields : ∀ g ∈ e.fields, ∃ f ∈ d.fields, g.Reduces f

namespace ModelDeclaration

def mapFields (d : ModelDeclaration) (reform : FieldDeclaration → FieldDeclaration) : ModelDeclaration :=
  { d with fields := d.fields.map reform }

theorem reduces_mapFields {d : ModelDeclaration} {reform : FieldDeclaration → FieldDeclaration}
    (h : ∀ f ∈ d.fields, (reform f).Reduces f) : (d.mapFields reform).Reduces d where
  name_eq := rfl
  hook_eq := rfl
  names_perm := by
    rw [mapFields, List.map_map]
    exact .of_eq (List.map_congr_left fun f hf => (h f hf).name_eq)
  fields := by
    intro g hg
    obtain ⟨f, hf, rfl⟩ := List.mem_map.mp hg
    exact ⟨f, hf, h f hf⟩

theorem reduces_of_perm {d : ModelDeclaration} {fields : List FieldDeclaration} (h : fields.Perm d.fields) :
    { d with fields }.Reduces d where
  name_eq := rfl
  hook_eq := rfl
  names_perm := h.map FieldDeclaration.name
  fields g hg := ⟨g, h.mem_iff.mp hg, .refl g⟩

namespace Reduces

variable {e d : ModelDeclaration} (h : e.Reduces d)

include h

theorem exists_field_of_name {name : String} (hName : ∃ f ∈ d.fields, f.name = name) :
    ∃ g ∈ e.fields, g.name = name :=
  List.mem_map.mp (h.names_perm.mem_iff.mpr (List.mem_map.mpr hName))

theorem exists_rule {g : FieldDeclaration} (hg : g ∈ e.fields) {c : Constraint} (hc : c ∈ g.constraints) :
    ∃ f ∈ d.fields, g.Reduces f ∧ ∃ c' ∈ f.constraints, c'.rule = c.rule := by
  obtain ⟨f, hf, hField⟩ := h.fields g hg
  exact ⟨f, hf, hField, hField.rules c hc⟩

theorem wellFormed (hWell : d.WellFormed) : e.WellFormed where
  model_named := h.name_eq ▸ hWell.model_named
  fields_named g hg := by
    obtain ⟨f, hf, hField⟩ := h.fields g hg
    exact hField.name_eq ▸ hWell.fields_named f hf
  names_distinct := by
    have hNodup : (d.fields.map FieldDeclaration.name).Nodup := List.pairwise_map.mpr hWell.names_distinct
    exact List.pairwise_map.mp (h.names_perm.nodup_iff.mpr hNodup)
  rules_fit g hg c hc := by
    obtain ⟨f, hf, hField, c', hc', hRule⟩ := h.exists_rule hg hc
    rw [← hRule, hField.fieldType_eq]
    exact hWell.rules_fit f hf c' hc'
  lengths_ordered g hg c hc min max hLength := by
    obtain ⟨f, hf, -, c', hc', hRule⟩ := h.exists_rule hg hc
    exact hWell.lengths_ordered f hf c' hc' min max (hRule.trans hLength)
  ranges_ordered g hg c hc min max hRange := by
    obtain ⟨f, hf, -, c', hc', hRule⟩ := h.exists_rule hg hc
    exact hWell.ranges_ordered f hf c' hc' min max (hRule.trans hRange)
  conditions_ordered g hg c hc other target min max hRange := by
    obtain ⟨f, hf, -, c', hc', hRule⟩ := h.exists_rule hg hc
    exact hWell.conditions_ordered f hf c' hc' other target min max (hRule.trans hRange)
  sets_filled g hg c hc := by
    obtain ⟨f, hf, -, c', hc', hRule⟩ := h.exists_rule hg hc
    exact hRule ▸ hWell.sets_filled f hf c' hc'
  siblings_declared g hg c hc other hOther := by
    obtain ⟨f, hf, hField, c', hc', hRule⟩ := h.exists_rule hg hc
    obtain ⟨hNe, hDeclared⟩ := hWell.siblings_declared f hf c' hc' other (hRule ▸ hOther)
    exact ⟨hField.name_eq ▸ hNe, h.exists_field_of_name hDeclared⟩

theorem isAccepted_of_reduces (hAccepted : d.isAccepted = true) : e.isAccepted = true :=
  isAccepted_iff_wellFormed.mpr (h.wellFormed (isAccepted_iff_wellFormed.mp hAccepted))

theorem resolves_of_reduces {validators : ValidatorSet} (hResolves : d.Resolves validators) :
    e.Resolves validators where
  validator g hg w hw := by
    obtain ⟨f, hf, hField⟩ := h.fields g hg
    exact hResolves.validator f hf w (hField.validators w hw)
  hook name hName := hResolves.hook name (h.hook_eq ▸ hName)

theorem prepare {validators : ValidatorSet} {m : PreparedModel}
    (hPrepared : PreparedModel.prepare d validators = .ok m) :
    PreparedModel.prepare e validators = .ok (.ofDeclaration e validators) := by
  obtain ⟨hAccepted, hResolves, -⟩ := (PreparedModel.prepare_eq_ok_iff d validators m).mp hPrepared
  exact (PreparedModel.prepare_eq_ok_iff e validators _).mpr
    ⟨h.isAccepted_of_reduces hAccepted, h.resolves_of_reduces hResolves, rfl⟩

end Reduces

end ModelDeclaration

theorem PreparedModel.sanitize_mapFields {ρ : Type} [Record ρ] (d : ModelDeclaration)
    (reform : FieldDeclaration → FieldDeclaration)
    (h : ∀ (f : FieldDeclaration) (r : ρ), (reform f).applyTo r = f.applyTo r) (r : ρ) :
    sanitize (Plan.ofDeclaration (d.mapFields reform)) r = sanitize (Plan.ofDeclaration d) r := by
  rw [sanitize_eq_foldl, sanitize_eq_foldl, ModelDeclaration.mapFields, List.foldl_map]
  exact List.foldl_ext _ _ r fun r f _ => h f r

end FieldRules
