import FieldRules.Proofs.Declaration.Same
import FieldRules.Proofs.Derive.Aligned
import Mathlib.Data.List.Pairwise

/-!
# Places of diagnostics

A flaw of a rule is found at one item, but its diagnostic is placed by searching for the name of the field and that of
the rule. The search stops at the first field of the name that takes part and there at the first item of the rule. So
the diagnostic stands at an item that has the flaw if and only if that first item has it.
-/
set_option autoImplicit false

namespace FieldRules

inductive Flaw where
  | danglingReference
  | selfReference
  | invalidBounds
  | emptySet
  | incompatibleType
  deriving DecidableEq

/-- A defect that tells what is wrong with a rule on a field, both by their names. -/
inductive Defect.Tells : Defect → String → String → Flaw → Prop where
  | danglingReference (field target rule : String) :
    Tells (.danglingReference field target rule) field rule .danglingReference
  | selfReference (field rule : String) : Tells (.selfReference field rule) field rule .selfReference
  | invalidBounds (field rule min max : String) : Tells (.invalidBounds field rule min max) field rule .invalidBounds
  | emptySet (field rule : String) : Tells (.emptySet field rule) field rule .emptySet
  | incompatibleType (field rule type : String) :
    Tells (.incompatibleType field rule type) field rule .incompatibleType

namespace Rule

variable {d : ModelDeclaration} {f : FieldDeclaration} {r r' : Rule}

/-- A rule has a flaw on its own, whatever other rules the field has. -/
def HasFlaw (d : ModelDeclaration) (f : FieldDeclaration) (r : Rule) (flaw : Flaw) : Prop :=
  ∃ x, r.HasDefect d f x ∧ x.Tells f.name r.name flaw

theorem HasDefect.names_eq {x : Defect} (h : r.HasDefect d f x) {name rule : String} {flaw : Flaw}
    (hTells : x.Tells name rule flaw) : name = f.name ∧ rule = r.name := by
  cases h <;> cases hTells <;> exact ⟨rfl, rfl⟩

theorem HasDefect.hasFlaw {x : Defect} (h : r.HasDefect d f x) {name rule : String} {flaw : Flaw}
    (hTells : x.Tells name rule flaw) : r.HasFlaw d f flaw := by
  obtain ⟨rfl, rfl⟩ := h.names_eq hTells
  exact ⟨x, h, hTells⟩

theorem hasFlaw_incompatibleType_iff : r.HasFlaw d f .incompatibleType ↔ ¬ r.Fits f.fieldType := by
  constructor
  · rintro ⟨_, hDefect, hTells⟩
    cases hTells
    cases hDefect
    assumption
  · exact fun h => ⟨_, .type h, .incompatibleType ..⟩

theorem hasFlaw_range_iff {min max : Double} :
    (range min max).HasFlaw d f .invalidBounds ↔ ¬ AreBounds min max := by
  constructor
  · rintro ⟨_, hDefect, hTells⟩
    cases hTells
    cases hDefect
    assumption
  · exact fun h => ⟨_, .range h, .invalidBounds ..⟩

/-- What types a rule fits is known by its name. -/
theorem fits_of_name_eq (h : r.name = r'.name) {type : FieldType} (hFits : r.Fits type) : r'.Fits type := by
  have hTextual (r : Rule) : r.isTextual = ["string_length", "email_format", "url_format", "credit_card_format",
      "phone_format", "file_extension"].contains r.name := by
    cases r <;> rfl
  have hNumeric (r : Rule) : r.isNumeric = ["range", "conditional_range"].contains r.name := by
    cases r <;> rfl
  rwa [Fits, hTextual, hNumeric, ← h, ← hTextual, ← hNumeric]

end Rule

namespace ModelDeclaration

theorem exists_rule_of_mem_defects {d : ModelDeclaration} {x : Defect} (hx : x ∈ d.defects) {name rule : String}
    {flaw : Flaw} (hTells : x.Tells name rule flaw) :
    ∃ f ∈ d.fields, ∃ c ∈ f.constraints, c.rule.HasDefect d f x := by
  rw [← map_located] at hx
  obtain ⟨⟨place, _⟩, hLocated, rfl⟩ := List.mem_map.mp hx
  cases (mem_located_iff place _).mp hLocated with
  | modelName | fieldName | repeated => cases hTells
  | rule hField _ hConstraint hRule =>
    exact ⟨_, List.mem_of_getElem? hField, _, List.mem_of_getElem? hConstraint, hRule⟩

end ModelDeclaration

section First

variable {α β : Type}

/-- The first item of a list that is as asked. -/
inductive IsFirst (p : α → Prop) : List α → α → Prop where
  | head {a : α} {rest : List α} (h : p a) : IsFirst p (a :: rest) a
  | tail {a b : α} {rest : List α} (h : ¬ p b) (hRest : IsFirst p rest a) : IsFirst p (b :: rest) a

namespace IsFirst

variable {p : α → Prop} {items : List α} {a b : α}

theorem holds (h : IsFirst p items a) : p a := by
  induction h with
  | head h => exact h
  | tail _ _ ih => exact ih

theorem mem (h : IsFirst p items a) : a ∈ items := by
  induction h with
  | head => exact List.mem_cons_self
  | tail _ _ ih => exact List.mem_cons_of_mem _ ih

theorem unique (h : IsFirst p items a) (h' : IsFirst p items b) : a = b := by
  induction h with
  | head h =>
    cases h' with
    | head => rfl
    | tail hNot => exact absurd h hNot
  | tail h _ ih =>
    cases h' with
    | head hHolds => exact absurd hHolds h
    | tail _ hRest => exact ih hRest

theorem exists_of_mem (ha : a ∈ items) (h : p a) : ∃ b, IsFirst p items b := by
  induction items with
  | nil => cases ha
  | cons c rest ih =>
    by_cases hc : p c
    · exact ⟨c, .head hc⟩
    · have hRest : a ∈ rest := (List.mem_cons.mp ha).resolve_left fun hEq => hc (hEq ▸ h)
      obtain ⟨b, hb⟩ := ih hRest
      exact ⟨b, .tail hc hb⟩

end IsFirst

theorem find?_of_isFirst {R : α → β → Prop} {p : α → Prop} {q : β → Bool} (hAlike : ∀ a b, R a b → (p a ↔ q b = true))
    {items : List α} {found : List β} (h : List.Forall₂ R items found) {a : α} (ha : IsFirst p items a) :
    ∃ b, found.find? q = some b ∧ R a b := by
  induction h with
  | nil => cases ha
  | cons hHead _ ih =>
    cases ha with
    | head hHolds => exact ⟨_, List.find?_cons_of_pos ((hAlike _ _ hHead).mp hHolds), hHead⟩
    | tail hNot hRest =>
      rw [List.find?_cons_of_neg (mt (hAlike _ _ hHead).mpr hNot)]
      exact ih hRest

/-- What stands beside the first item that is as asked, by the index of that item. -/
theorem getElem?_findIdx? (p : α → Bool) (items : List α) (found : List β) :
    ((items.findIdx? p).bind fun k => found[k]?) = ((items.zip found).find? fun e => p e.1).map Prod.snd := by
  induction items generalizing found with
  | nil => rfl
  | cons a rest ih =>
    cases found with
    | nil => cases List.findIdx? p (a :: rest) <;> rfl
    | cons b others =>
      rw [List.findIdx?_cons, List.zip_cons_cons, List.find?_cons]
      cases p a with
      | true => rfl
      | false =>
        rw [if_neg Bool.false_ne_true, Option.bind_map]
        exact ih others

end First

namespace Derive

open Source AnnotatedModel

def constraintItems (f : Field) : List AttributeItem :=
  ofKind .constraint (itemsOf f)

namespace AttributeItem

def Declares (rule : String) (t : AttributeItem) : Prop :=
  ∃ c, constraintOf t = .ok c ∧ c.rule.name = rule

def HasFlaw (d : ModelDeclaration) (f : Field) (flaw : Flaw) (t : AttributeItem) : Prop :=
  ∃ c, constraintOf t = .ok c ∧ c.rule.HasFlaw d (readField f).1.declaration flaw

end AttributeItem

/-- A place is that of an item which has a flaw, on a field of a name. -/
def IsAtFlaw (d : ModelDeclaration) (fields : List Field) (name : String) (flaw : Flaw) (spot : Spot) : Prop :=
  ∃ f ∈ fields, (readField f).1.name = name ∧ ∃ t ∈ constraintItems f, t.spot = spot ∧ t.HasFlaw d f flaw

def IsFirstField (fields : List Field) (name : String) (f : Field) : Prop :=
  IsFirst (fun g => (readField g).1.name = name) (fields.filter fun g => TakesPart fields g) f

def IsFirstItem (f : Field) (rule : String) (t : AttributeItem) : Prop :=
  IsFirst (AttributeItem.Declares rule) (constraintItems f) t

def FirstHasFlaw (d : ModelDeclaration) (fields : List Field) (name rule : String) (flaw : Flaw) : Prop :=
  ∃ f t, IsFirstField fields name f ∧ IsFirstItem f rule t ∧ t.HasFlaw d f flaw

/-- Where the search for a field and a rule ends: at an item, or at the field if it has no such item. -/
inductive IsFound (fields : List Field) (name rule : String) : Spot → Prop where
  | item {f : Field} {t : AttributeItem} (hField : IsFirstField fields name f) (hItem : IsFirstItem f rule t) :
    IsFound fields name rule t.spot
  | field {f : Field} (hField : IsFirstField fields name f) (hNone : ∀ t ∈ constraintItems f, ¬ t.Declares rule) :
    IsFound fields name rule f.ident.spot

/-- The names of the fields and the items of their constraints stand at places of their own. -/
def HasDistinctPlaces (fields : List Field) : Prop :=
  (fields.flatMap fun f => f.ident.spot :: (constraintItems f).map AttributeItem.spot).Nodup

instance (fields : List Field) : Decidable (HasDistinctPlaces fields) :=
  inferInstanceAs (Decidable (List.Nodup _))

/-- The constraints of a field with the places that stand beside them. -/
def AnnotatedField.located (a : AnnotatedField) : List (Constraint × Spot) :=
  a.constraints.zip a.constraintSpots

theorem located_readField {f : Field} (h : (readField f).2 = []) :
    List.Forall₂ (fun t e => constraintOf t = .ok e.1 ∧ t.spot = e.2) (constraintItems f)
      (readField f).1.located := by
  obtain ⟨-, x, hx, hConstraints, hSpots, -⟩ := exists_additions h
  rw [AnnotatedField.located, ← List.zip_of_prod hConstraints.symm hSpots.symm]
  refine (mapM_eq_ok_iff.mp hx.constraints).imp fun t e he => ?_
  obtain ⟨c, hc, rfl⟩ := bind_pure_eq_ok_iff.mp he
  exact ⟨hc, rfl⟩

/-- An item declares a rule exactly if a search for the name of the rule stops at its constraint. -/
theorem AttributeItem.declares_iff {t : AttributeItem} {c : Constraint} (h : constraintOf t = .ok c) {rule : String} :
    t.Declares rule ↔ (some rule == some c.rule.name) = true := by
  simp only [Declares, h, Except.ok.injEq, exists_eq_left', beq_iff_eq, Option.some.injEq]
  exact eq_comm

theorem find?_of_isFirstItem {f : Field} (hRead : (readField f).2 = []) {rule : String} {t : AttributeItem}
    (h : IsFirstItem f rule t) :
    ∃ c, (readField f).1.located.find? (fun e => some rule == some e.1.rule.name) = some (c, t.spot) := by
  obtain ⟨⟨c, _⟩, hFind, -, rfl⟩ :=
    find?_of_isFirst (fun _ _ he => AttributeItem.declares_iff he.1) (located_readField hRead) h
  exact ⟨c, hFind⟩

theorem find?_of_not_declares {f : Field} (hRead : (readField f).2 = []) {rule : String}
    (hNone : ∀ t ∈ constraintItems f, ¬ t.Declares rule) :
    (readField f).1.located.find? (fun e => some rule == some e.1.rule.name) = none := by
  refine List.find?_eq_none.mpr fun e he hEq => ?_
  obtain ⟨t, ht, hAt, -⟩ := exists_of_forall₂_right (located_readField hRead) he
  exact hNone t ht ((AttributeItem.declares_iff hAt).mpr hEq)

/-- The search for a defect that tells of a rule goes by the two names. -/
theorem AnnotatedModel.spotOf_of_tells (m : AnnotatedModel) {x : Defect} {name rule : String} {flaw : Flaw}
    (hTells : x.Tells name rule flaw) {a : AnnotatedField} (hField : m.fields.find? (·.name == name) = some a) :
    m.spotOf x = ((a.located.find? fun e => some rule == some e.1.rule.name).map Prod.snd).getD a.ident.spot := by
  have hFieldOf : m.fieldOf? x = some a := by cases hTells <;> exact hField
  have hRuleOf : ruleOf? x = some rule := by cases hTells <;> rfl
  have hSearch := getElem?_findIdx? (fun c : Constraint => some rule == some c.rule.name) a.constraints
    a.constraintSpots
  rw [spotOf, hFieldOf, hRuleOf, AnnotatedField.located, ← hSearch]

section Unchecked

variable {i : Item} {fields : List Field} {x : Defect} {name rule : String} {flaw : Flaw}

theorem exists_item_of_mem_defects (hReads : Reads i fields) (hx : x ∈ (unchecked i fields).declaration.defects)
    (hTells : x.Tells name rule flaw) :
    ∃ f ∈ fields.filter fun f => TakesPart fields f, (readField f).1.name = name ∧ ∃ t ∈ constraintItems f,
      t.Declares rule ∧ t.HasFlaw (unchecked i fields).declaration f flaw := by
  obtain ⟨_, hField, c, hc, hDefect⟩ := ModelDeclaration.exists_rule_of_mem_defects hx hTells
  rw [AnnotatedModel.declaration, fields_unchecked, List.map_map] at hField
  obtain ⟨f, hf, rfl⟩ := List.mem_map.mp hField
  obtain ⟨t, ht, hRead⟩ := exists_of_forall₂_right
    (isAligned_readField (hReads.fields f (List.mem_filter.mp hf).1)).constraints hc
  obtain ⟨rfl, rfl⟩ := hDefect.names_eq hTells
  exact ⟨f, hf, rfl, t, ht, ⟨_, hRead, rfl⟩, _, hRead, hDefect.hasFlaw hTells⟩

theorem find?_of_isFirstField {f : Field} (h : IsFirstField fields name f) :
    (unchecked i fields).fields.find? (·.name == name) = some (readField f).1 := by
  have hBeside : List.Forall₂ (fun f a => a = (readField f).1) (fields.filter fun f => TakesPart fields f)
      (unchecked i fields).fields := by
    rw [fields_unchecked, List.forall₂_map_right_iff, List.forall₂_same]
    exact fun _ _ => rfl
  obtain ⟨_, hFind, rfl⟩ := find?_of_isFirst (q := (·.name == name)) (by rintro f _ rfl; simp) hBeside h
  exact hFind

/-- The search ends at the first item of the rule in the first field of the name, or at this field. -/
theorem isFound_spotOf (hReads : Reads i fields) (hx : x ∈ (unchecked i fields).declaration.defects)
    (hTells : x.Tells name rule flaw) : IsFound fields name rule ((unchecked i fields).spotOf x) := by
  obtain ⟨g, hg, hName, -⟩ := exists_item_of_mem_defects hReads hx hTells
  obtain ⟨f, hFirst⟩ : ∃ f, IsFirstField fields name f := IsFirst.exists_of_mem hg hName
  have hRead := hReads.fields f (List.mem_filter.mp hFirst.mem).1
  rw [spotOf_of_tells _ hTells (find?_of_isFirstField hFirst)]
  by_cases hSome : ∃ t ∈ constraintItems f, t.Declares rule
  · obtain ⟨_, hMem, hDeclares⟩ := hSome
    obtain ⟨t, hItem⟩ : ∃ t, IsFirstItem f rule t := IsFirst.exists_of_mem hMem hDeclares
    obtain ⟨c, hAt⟩ := find?_of_isFirstItem hRead hItem
    rw [hAt, Option.map_some, Option.getD_some]
    exact .item hFirst hItem
  · have hNone (t : AttributeItem) (ht : t ∈ constraintItems f) : ¬ t.Declares rule :=
      fun hDeclares => hSome ⟨t, ht, hDeclares⟩
    rw [find?_of_not_declares hRead hNone, Option.map_none, Option.getD_none, (readField_isOf f).ident_eq]
    exact .field hFirst hNone

theorem FirstHasFlaw.isAtFlaw {d : ModelDeclaration} {spot : Spot} (h : FirstHasFlaw d fields name rule flaw)
    (hFound : IsFound fields name rule spot) : IsAtFlaw d fields name flaw spot := by
  obtain ⟨f, t, hField, hItem, hFlaw⟩ := h
  cases hFound with
  | item hField' hItem' =>
    obtain rfl := hField.unique hField'
    obtain rfl := hItem.unique hItem'
    exact ⟨f, (List.mem_filter.mp hField.mem).1, hField.holds, t, hItem.mem, rfl, hFlaw⟩
  | field hField' hNone =>
    obtain rfl := hField.unique hField'
    exact absurd hItem.holds (hNone t hItem.mem)

end Unchecked

namespace HasDistinctPlaces

variable {fields : List Field} (h : HasDistinctPlaces fields) {f g : Field} (hf : f ∈ fields) (hg : g ∈ fields)

include h hf hg

theorem field_eq {spot : Spot} (hSpot : spot ∈ f.ident.spot :: (constraintItems f).map AttributeItem.spot)
    (hOther : spot ∈ g.ident.spot :: (constraintItems g).map AttributeItem.spot) : f = g := by
  by_contra hNe
  have hApart : Std.Symm (Function.onFun List.Disjoint fun f : Field =>
      f.ident.spot :: (constraintItems f).map AttributeItem.spot) := ⟨fun _ _ => List.disjoint_symm⟩
  exact List.disjoint_left.mp ((List.nodup_flatMap.mp h).2.forall hf hg hNe) hSpot hOther

theorem item_eq {t u : AttributeItem} (ht : t ∈ constraintItems f) (hu : u ∈ constraintItems g)
    (hSpot : t.spot = u.spot) : f = g ∧ t = u := by
  have hMem {f : Field} {t : AttributeItem} (ht : t ∈ constraintItems f) :
      t.spot ∈ f.ident.spot :: (constraintItems f).map AttributeItem.spot :=
    List.mem_cons_of_mem _ (List.mem_map_of_mem ht)
  obtain rfl := h.field_eq hf hg (hMem ht) (hSpot ▸ hMem hu)
  have hItems := (List.nodup_cons.mp ((List.nodup_flatMap.mp h).1 f hf)).2
  exact ⟨rfl, List.inj_on_of_nodup_map hItems ht hu hSpot⟩

theorem ident_ne {u : AttributeItem} (hu : u ∈ constraintItems g) : f.ident.spot ≠ u.spot := by
  intro hSpot
  have hMem : u.spot ∈ (constraintItems g).map AttributeItem.spot := List.mem_map_of_mem hu
  obtain rfl := h.field_eq hf hg (hSpot ▸ List.mem_cons_self) (List.mem_cons_of_mem _ hMem)
  exact (List.nodup_cons.mp ((List.nodup_flatMap.mp h).1 f hf)).1 (hSpot ▸ hMem)

end HasDistinctPlaces

/-- Where places are told apart, a search that ends at an item with the flaw ends at the first item. -/
theorem firstHasFlaw_of_isAtFlaw {fields : List Field} (hPlaces : HasDistinctPlaces fields) {d : ModelDeclaration}
    {name rule : String} {flaw : Flaw} {spot : Spot} (hFound : IsFound fields name rule spot)
    (hAt : IsAtFlaw d fields name flaw spot) : FirstHasFlaw d fields name rule flaw := by
  obtain ⟨g, hg, -, u, hu, hSpot, hFlaw⟩ := hAt
  cases hFound with
  | @item f t hField hItem =>
    obtain ⟨rfl, rfl⟩ := hPlaces.item_eq (List.mem_filter.mp hField.mem).1 hg hItem.mem hu hSpot.symm
    exact ⟨f, t, hField, hItem, hFlaw⟩
  | field hField => exact absurd hSpot.symm (hPlaces.ident_ne (List.mem_filter.mp hField.mem).1 hg hu)

def HasDistinctNames (d : ModelDeclaration) : Prop :=
  (d.fields.map FieldDeclaration.name).Nodup

instance (d : ModelDeclaration) : Decidable (HasDistinctNames d) :=
  inferInstanceAs (Decidable (List.Nodup _))

def HasDistinctRules (d : ModelDeclaration) : Prop :=
  ∀ f ∈ d.fields, (f.constraints.map fun c => c.rule.name).Nodup

section Distinct

variable {i : Item} {fields : List Field} (hReads : Reads i fields)

include hReads

theorem mem_constraints_of_item {f : Field} (hf : f ∈ fields) {t : AttributeItem} (ht : t ∈ constraintItems f)
    {c : Constraint} (hc : constraintOf t = .ok c) : c ∈ (readField f).1.declaration.constraints := by
  obtain ⟨e, he, hRead⟩ := exists_of_forall₂_right (isAligned_readField (hReads.fields f hf)).constraints.flip ht
  cases hc.symm.trans hRead
  exact he

theorem firstHasFlaw_of_distinct (hNames : HasDistinctNames (unchecked i fields).declaration) {x : Defect}
    (hx : x ∈ (unchecked i fields).declaration.defects) {name rule : String} {flaw : Flaw}
    (hTells : x.Tells name rule flaw)
    (hRules : flaw = .incompatibleType ∨ HasDistinctRules (unchecked i fields).declaration) :
    FirstHasFlaw (unchecked i fields).declaration fields name rule flaw := by
  obtain ⟨g, hg, hName, u, hu, ⟨c, hc, hRule⟩, _, hc', hFlaw⟩ := exists_item_of_mem_defects hReads hx hTells
  cases hc.symm.trans hc'
  obtain ⟨f, hField⟩ : ∃ f, IsFirstField fields name f := IsFirst.exists_of_mem hg hName
  obtain ⟨t, hItem⟩ : ∃ t, IsFirstItem g rule t := IsFirst.exists_of_mem hu ⟨c, hc, hRule⟩
  obtain rfl : f = g := by
    rw [HasDistinctNames, AnnotatedModel.declaration, fields_unchecked, List.map_map, List.map_map] at hNames
    exact List.inj_on_of_nodup_map hNames hField.mem hg (hField.holds.trans hName.symm)
  obtain ⟨c₀, hc₀, hRule₀⟩ := hItem.holds
  refine ⟨f, t, hField, hItem, c₀, hc₀, ?_⟩
  have hSame : c₀.rule.name = c.rule.name := hRule₀.trans hRule.symm
  obtain rfl | hRules := hRules
  · rw [Rule.hasFlaw_incompatibleType_iff] at hFlaw ⊢
    exact mt (Rule.fits_of_name_eq hSame) hFlaw
  · have hf := (List.mem_filter.mp hg).1
    have hDeclared : (readField f).1.declaration ∈ (unchecked i fields).declaration.fields := by
      rw [AnnotatedModel.declaration, fields_unchecked, List.map_map]
      exact List.mem_map.mpr ⟨f, hg, rfl⟩
    obtain rfl : c₀ = c := List.inj_on_of_nodup_map (hRules _ hDeclared)
      (mem_constraints_of_item hReads hf hItem.mem hc₀) (mem_constraints_of_item hReads hf hu hc) hSame
    exact hFlaw

end Distinct

/-- The errors of a structure whose attributes can be read are reported one by one. One that tells of a flaw stands
where the search ends, and this is at an item with the flaw exactly if the first item of the search has it. That is so
for a flaw of a type if no two fields have one name, and for all flaws if moreover no field has two constraints of one
rule. -/
theorem ofItem_placesErrors {i : Item} {fields : List Field} (hBody : i.body = .named fields) (hReads : Reads i fields)
    (hRejected : (unchecked i fields).declaration.errors ≠ []) :
    ∃ reported, ofItem i = .error reported ∧
      List.Forall₂ (fun e diagnostic => diagnostic.message = e.message ∧
        ∀ name rule flaw, e.defect.Tells name rule flaw →
          IsFound fields name rule diagnostic.spot ∧
          (FirstHasFlaw (unchecked i fields).declaration fields name rule flaw →
            IsAtFlaw (unchecked i fields).declaration fields name flaw diagnostic.spot) ∧
          (HasDistinctPlaces fields → IsAtFlaw (unchecked i fields).declaration fields name flaw diagnostic.spot →
            FirstHasFlaw (unchecked i fields).declaration fields name rule flaw) ∧
          (HasDistinctNames (unchecked i fields).declaration →
            flaw = .incompatibleType ∨ HasDistinctRules (unchecked i fields).declaration →
            IsAtFlaw (unchecked i fields).declaration fields name flaw diagnostic.spot))
        (unchecked i fields).declaration.errors reported := by
  refine ⟨(unchecked i fields).diagnostics, ?_, ?_⟩
  · have hSome : (unchecked i fields).diagnostics ≠ [] := mt List.map_eq_nil_iff.mp hRejected
    have hItem : ofItem i = ofFields i fields := by rw [ofItem, hBody]
    rw [hItem, ofFields_of_reads hReads, if_neg hSome]
  · rw [AnnotatedModel.diagnostics, List.forall₂_map_right_iff, List.forall₂_same]
    intro e he
    obtain ⟨x, hx, rfl⟩ := List.mem_map.mp he
    refine ⟨rfl, fun name rule flaw hTells => ?_⟩
    have hFound := isFound_spotOf hReads hx hTells
    exact ⟨hFound, fun hFirst => hFirst.isAtFlaw hFound, fun hPlaces => firstHasFlaw_of_isAtFlaw hPlaces hFound,
      fun hNames hRules => (firstHasFlaw_of_distinct hReads hNames hx hTells hRules).isAtFlaw hFound⟩

end Derive

/-! A structure with two ranges on one field, of which only the second is out of order, and with a length on a
number. -/

namespace Booking

open Source Derive AnnotatedModel
open Signup (rules given)

def itemAt (spot : Spot) (name : String) (content : List (List Tree)) : List Tree :=
  [.name spot false name] ++ parens (separate content)

def nights : Field :=
  { attributes :=
      [rules (separate
        [itemAt ⟨2, 15⟩ "range" [given "min" (intLiteral 1 ""), given "max" (intLiteral 30 "")],
          itemAt ⟨2, 41⟩ "range" [given "min" (intLiteral 7 ""), given "max" (intLiteral 2 ""),
            given "group" (textLiteral "weekly")]])]
    ident := ⟨⟨3, 4⟩, false, "nights"⟩
    type := .path "u32" [] }

def room : Field :=
  { attributes := [rules (itemAt ⟨4, 15⟩ "length" [given "max" (intLiteral 3 "")])]
    ident := ⟨⟨5, 4⟩, false, "room"⟩
    type := .path "i32" [] }

def fields : List Field :=
  [nights, room]

def booking : Item :=
  { attributes := []
    ident := ⟨⟨1, 7⟩, false, "Booking"⟩
    generics := ⟨[], []⟩
    body := .named fields }

theorem reads : Reads booking fields :=
  ⟨by decide +kernel, by decide +kernel⟩

theorem errors_eq : (unchecked booking fields).declaration.errors =
    [⟨"Booking", .invalidBounds "nights" "range" "7" "2"⟩,
      ⟨"Booking", .incompatibleType "room" "string_length" "int"⟩] := by
  decide +kernel

theorem ranges : ∀ f ∈ fields, (readField f).1.name = "nights" → ∀ t ∈ constraintItems f,
    (t.spot = ⟨2, 15⟩ ∧ (constraintOf t).toOption.map Constraint.rule = some (.range (.ofInt 1) (.ofInt 30))) ∨
      t.spot = ⟨2, 41⟩ := by
  decide +kernel

theorem not_isAtFlaw :
    ¬ IsAtFlaw (unchecked booking fields).declaration fields "nights" .invalidBounds ⟨2, 15⟩ := by
  rintro ⟨f, hf, hName, t, ht, hSpot, c, hc, hFlaw⟩
  rcases ranges f hf hName t ht with ⟨-, hRule⟩ | hOther
  · have hRange : c.rule = .range (.ofInt 1) (.ofInt 30) := by
      rw [hc] at hRule
      exact Option.some.inj hRule
    rw [hRange, Rule.hasFlaw_range_iff] at hFlaw
    exact hFlaw ⟨by decide +kernel, by decide +kernel, by decide +kernel⟩
  · rw [hOther] at hSpot
    cases hSpot

theorem isAtFlaw_second :
    IsAtFlaw (unchecked booking fields).declaration fields "nights" .invalidBounds ⟨2, 41⟩ := by
  have hDefect : .invalidBounds "nights" "range" "7" "2" ∈ (unchecked booking fields).declaration.defects := by
    decide +kernel
  obtain ⟨f, hf, hName, t, ht, -, hFlaw⟩ := exists_item_of_mem_defects reads hDefect (.invalidBounds ..)
  have hField := (List.mem_filter.mp hf).1
  rcases ranges f hField hName t ht with ⟨hSpot, -⟩ | hSpot
  · exact absurd ⟨f, hField, hName, t, ht, hSpot, hFlaw⟩ not_isAtFlaw
  · exact ⟨f, hField, hName, t, ht, hSpot, hFlaw⟩

end Booking

namespace Derive

open Source AnnotatedModel

/-- The range that is out of order is reported at the one in front of it. -/
theorem ofItem_misplacesBounds :
    Booking.booking.body = .named Booking.fields ∧ Reads Booking.booking Booking.fields ∧
    HasDistinctPlaces Booking.fields ∧
    (∃ mismatch, ofItem Booking.booking =
      .error [⟨⟨2, 15⟩, "model 'Booking': field 'nights' has invalid range bounds (min: 7, max: 2)"⟩, mismatch]) ∧
    ¬ IsAtFlaw (unchecked Booking.booking Booking.fields).declaration Booking.fields "nights" .invalidBounds
      ⟨2, 15⟩ ∧
    IsAtFlaw (unchecked Booking.booking Booking.fields).declaration Booking.fields "nights" .invalidBounds
      ⟨2, 41⟩ := by
  have hDiagnostics : (unchecked Booking.booking Booking.fields).diagnostics =
      [⟨⟨2, 15⟩, "model 'Booking': field 'nights' has invalid range bounds (min: 7, max: 2)"⟩,
        ⟨⟨4, 15⟩, "model 'Booking': string_length cannot be applied to field 'room' of type int"⟩] := by
    decide +kernel
  have hReported : ofItem Booking.booking = .error (unchecked Booking.booking Booking.fields).diagnostics := by
    have hItem : ofItem Booking.booking = ofFields Booking.booking Booking.fields := rfl
    rw [hItem, ofFields_of_reads Booking.reads, hDiagnostics, if_neg (List.cons_ne_nil _ _)]
  rw [hDiagnostics] at hReported
  exact ⟨rfl, Booking.reads, by decide +kernel, ⟨_, hReported⟩, Booking.not_isAtFlaw, Booking.isAtFlaw_second⟩

theorem ofItem_placesErrors_booking :
    Reads Booking.booking Booking.fields ∧ (unchecked Booking.booking Booking.fields).declaration.errors ≠ [] ∧
    ∃ bounds type, ofItem Booking.booking = .error [bounds, type] ∧
      IsFound Booking.fields "nights" "range" bounds.spot ∧
      IsFound Booking.fields "room" "string_length" type.spot ∧
      IsAtFlaw (unchecked Booking.booking Booking.fields).declaration Booking.fields "room" .incompatibleType
        type.spot := by
  have hRejected : (unchecked Booking.booking Booking.fields).declaration.errors ≠ [] := by
    rw [Booking.errors_eq]
    exact List.cons_ne_nil _ _
  have hNames : HasDistinctNames (unchecked Booking.booking Booking.fields).declaration := by
    decide +kernel
  obtain ⟨reported, hItem, hErrors⟩ := ofItem_placesErrors rfl Booking.reads hRejected
  rw [Booking.errors_eq] at hErrors
  obtain _ | ⟨⟨-, hBounds⟩, _ | ⟨⟨-, hType⟩, ⟨⟩⟩⟩ := hErrors
  obtain ⟨hFirst, -⟩ := hBounds _ _ _ (.invalidBounds ..)
  obtain ⟨hSecond, -, -, hAtFlaw⟩ := hType _ _ _ (.incompatibleType ..)
  exact ⟨Booking.reads, hRejected, _, _, hItem, hFirst, hSecond, hAtFlaw hNames (.inl rfl)⟩

end Derive
end FieldRules
