import FieldRules.Proofs.Derive.Grammar

/-!
# Well-formed items of constraints

An item is read exactly if it is well formed by the grammar of its name, and it stands for the same constraint in
whatever order its arguments come.
-/
set_option autoImplicit false

namespace FieldRules

theorem Severity.exists_read?_iff (text : String) : (∃ s, read? text = some s) ↔ IsSeverity text := by
  rw [read?, IsSeverity]
  generalize text.map Char.toLower = word
  by_cases hWarn : word = "warn"
  · simp [hWarn]
  · simp only [beq_iff_eq, hWarn, if_false, ofName?, all, ← Option.isSome_iff_exists, List.find?_isSome]
    simp [hWarn, name, eq_comm]

namespace Derive

open Source

theorem exists_exists_and {α β : Type} {P : α → Prop} {Q : α → β → Prop} :
    (∃ b a, P a ∧ Q a b) ↔ ∃ a, P a ∧ ∃ b, Q a b := by
  rw [exists_comm]
  exact exists_congr fun a => exists_and_left

theorem severityOf_eq_ok_iff (e : Expr) (s : Severity) :
    severityOf e = .ok s ↔ ∃ text, e.text = .ok text ∧ Severity.read? text = some s := by
  rw [severityOf, bind_eq_ok_iff]
  refine exists_congr fun text => and_congr_right' ?_
  cases Severity.read? text with
  | none => exact ⟨nofun, nofun⟩
  | some => exact ⟨fun h => congrArg some (Except.ok.inj h), fun h => congrArg Except.ok (Option.some.inj h)⟩

theorem severityOf_iff (e : Expr) : (∃ s, severityOf e = .ok s) ↔ LiteralForm.severity.Fits e := by
  simp only [severityOf_eq_ok_iff, exists_exists_and, LiteralForm.Fits, ← Severity.exists_read?_iff,
    e.text_eq_ok_iff]

theorem listEntry_iff (e : Expr) : (∃ texts, listEntry e = .ok texts) ↔ IsEntry e := by
  constructor
  · rintro ⟨texts, hRead⟩
    unfold listEntry at hRead
    split at hRead
    · next spot items =>
      cases (Expr.texts_iff _).mp ⟨texts, hRead⟩ with
      | array _ h => exact .array spot h
      | text h =>
        obtain ⟨s, hs⟩ := h
        cases hs
    · obtain ⟨v, hValue, hText⟩ := bind_eq_ok_iff.mp hRead
      refine .displayed ((Expr.displayed_iff e).mp ⟨v, hValue, ?_⟩)
      rintro rfl
      cases hText
  · intro h
    cases h with
    | array spot h => exact (Expr.texts_iff _).mpr (.array spot h)
    | displayed h =>
      obtain ⟨v, hValue, hNull⟩ := (Expr.displayed_iff e).mpr h
      obtain ⟨text, hText⟩ := Option.ne_none_iff_exists'.mp (mt (Value.display?_eq_none_iff v).mp hNull)
      unfold listEntry
      split
      · cases hValue
      · exact ⟨[text], bind_eq_ok_iff.mpr ⟨v, hValue, by rw [hText]; rfl⟩⟩

/-- What stands under the name of an argument is of its form, and something does if it has to. -/
structure Arguments.Has (a : Arguments) (form : ArgumentForm) : Prop where
  fits : ∀ e, a.value? form.name = some e → form.literal.Fits e
  given : form.isRequired = true → ∃ e, a.value? form.name = some e

section Has

variable {α : Type} {a : Arguments} {name : String} {read : Expr → Reading α} {l : LiteralForm}
  (hRead : ∀ e, (∃ v, read e = .ok v) ↔ l.Fits e)

include hRead

theorem Arguments.exists_gives_iff : (∃ v, a.Gives name read v) ↔ a.Has ⟨name, l, false⟩ := by
  constructor
  · rintro ⟨v, h⟩
    refine ⟨fun e hValue => ?_, nofun⟩
    rw [Gives, hValue] at h
    cases h with
    | some hv => exact (hRead e).mp ⟨_, hv⟩
  · rintro ⟨hFits, -⟩
    unfold Gives
    cases hValue : a.value? name with
    | none => exact ⟨none, .none⟩
    | some e =>
      obtain ⟨v, hv⟩ := (hRead e).mpr (hFits e hValue)
      exact ⟨some v, .some hv⟩

theorem Arguments.exists_gives_some_iff : (∃ v, a.Gives name read (some v)) ↔ a.Has ⟨name, l, true⟩ := by
  simp only [gives_some_iff, exists_exists_and, hRead]
  constructor
  · rintro ⟨e, hValue, hFits⟩
    exact ⟨fun _ hOther => Option.some.inj (hValue.symm.trans hOther) ▸ hFits, fun _ => ⟨e, hValue⟩⟩
  · rintro ⟨hFits, hGiven⟩
    obtain ⟨e, hValue⟩ := hGiven rfl
    exact ⟨e, hValue, hFits e hValue⟩

end Has

theorem Arguments.exists_lists_iff {a : Arguments} {name : String} :
    (∃ texts, a.Lists name texts) ↔ a.Has ⟨name, .texts, false⟩ ∧ ∀ e ∈ a.positional, IsEntry e := by
  have hEntries : (∃ entries, a.positional.mapM listEntry = .ok entries) ↔ ∀ e ∈ a.positional, IsEntry e := by
    simp only [exists_mapM_iff, listEntry_iff]
  rw [← exists_gives_iff (l := .texts) Expr.texts_iff, ← hEntries]
  constructor
  · rintro ⟨_, entries, hEntries, more, hMore, -⟩
    exact ⟨⟨more, hMore⟩, entries, hEntries⟩
  · rintro ⟨⟨more, hMore⟩, entries, hEntries⟩
    exact ⟨_, entries, hEntries, more, hMore, rfl⟩

theorem Arguments.exists_spells_iff {label : String} {g : Grammar} (h : grammar? label = some g) (a : Arguments) :
    (∃ r, a.Spells label r) ↔
      (∀ form ∈ g.arguments, a.Has form) ∧ (g.takesValues = true → ∀ e ∈ a.positional, IsEntry e) := by
  unfold grammar? at h
  unfold Arguments.Spells
  split at h
  case h_14 => contradiction
  all_goals
    cases h
    simp only [exists_exists_and, exists_eq, and_true, exists_and_right, List.forall_mem_cons, List.not_mem_nil,
      false_imp_iff, implies_true, true_imp_iff, Bool.false_eq_true,
      exists_gives_iff Expr.size_iff (l := .size), exists_gives_some_iff Expr.size_iff (l := .size),
      exists_gives_some_iff Expr.number_iff (l := .number), exists_gives_some_iff Expr.text_iff (l := .text),
      exists_gives_some_iff Expr.value_iff (l := .value), exists_lists_iff]

theorem Arguments.exists_isMessage_iff (template key : Option Expr) :
    (∃ m, IsMessage template key m) ↔
      (∀ e, template = some e → e.IsText) ∧ (∀ e, key = some e → e.IsText) ∧ (template = none ∨ key = none) := by
  constructor
  · rintro ⟨m, h⟩
    cases h with
    | @literal e text h =>
      have hText : e.IsText := ⟨text, (e.text_eq_ok_iff text).mp h⟩
      exact ⟨fun _ he => Option.some.inj he ▸ hText, nofun, .inr rfl⟩
    | @resource e text h =>
      have hText : e.IsText := ⟨text, (e.text_eq_ok_iff text).mp h⟩
      exact ⟨nofun, fun _ he => Option.some.inj he ▸ hText, .inl rfl⟩
    | none => exact ⟨nofun, nofun, .inl rfl⟩
  · rintro ⟨hTemplate, hKey, hOne⟩
    cases template with
    | some e =>
      obtain rfl := hOne.resolve_left nofun
      obtain ⟨text, hText⟩ := (Expr.text_iff e).mpr (hTemplate e rfl)
      exact ⟨_, .literal hText⟩
    | none =>
      cases key with
      | some e =>
        obtain ⟨text, hText⟩ := (Expr.text_iff e).mpr (hKey e rfl)
        exact ⟨_, .resource hText⟩
      | none => exact ⟨_, .none⟩

def Grammar.forms (g : Grammar) : List ArgumentForm :=
  g.arguments ++ modifiers

theorem Grammar.map_name_forms (g : Grammar) : g.forms.map ArgumentForm.name = g.names ++ modifierNames :=
  List.map_append

theorem Arguments.exists_declares_iff {label : String} {g : Grammar} (h : grammar? label = some g) (a : Arguments) :
    (∃ c, a.Declares label c) ↔
      (∀ form ∈ g.forms, a.Has form) ∧ (a.value? "message" = none ∨ a.value? "message_key" = none) ∧
        (g.takesValues = true → ∀ e ∈ a.positional, IsEntry e) := by
  have hParts : (∃ c, a.Declares label c) ↔ (∃ r, a.Spells label r) ∧
      (∃ m, IsMessage (a.value? "message") (a.value? "message_key") m) ∧
      (∃ severity, a.Gives "severity" severityOf severity) ∧ ∃ group, a.Gives "group" Expr.text group := by
    constructor
    · rintro ⟨c, hRule, hMessage, ⟨severity, hSeverity, -⟩, hGroup⟩
      exact ⟨⟨_, hRule⟩, ⟨_, hMessage⟩, ⟨severity, hSeverity⟩, _, hGroup⟩
    · rintro ⟨⟨rule, hRule⟩, ⟨message, hMessage⟩, ⟨severity, hSeverity⟩, group, hGroup⟩
      exact ⟨⟨rule, message, severity.getD .error, group⟩, hRule, hMessage, ⟨severity, hSeverity, rfl⟩, hGroup⟩
  have hTextForm (name : String) : a.Has ⟨name, .text, false⟩ ↔ ∀ e, a.value? name = some e → e.IsText :=
    ⟨fun hHas => hHas.fits, fun hFits => ⟨hFits, nofun⟩⟩
  rw [hParts, exists_spells_iff h, exists_isMessage_iff, exists_gives_iff severityOf_iff,
    exists_gives_iff (l := .text) Expr.text_iff, Grammar.forms, modifiers]
  simp only [List.forall_mem_append, List.forall_mem_cons, List.not_mem_nil, false_imp_iff, implies_true, and_true,
    hTextForm "message", hTextForm "message_key"]
  tauto

theorem Grammar.isEmpty_rest_iff {label : String} {g : Grammar} (h : grammar? label = some g) (a : Arguments) :
    ((g.rest a).without modifierNames).IsEmpty ↔
      (a.names.Nodup ∧ ∀ name ∈ a.names, name ∈ g.names ++ modifierNames) ∧ a.flags = [] ∧
        (g.takesValues = false → a.positional = []) := by
  rw [← Arguments.named_without_eq_nil_iff (names_apart h), ← Arguments.without_without]
  have hPositional : (g.rest a).positional = [] ↔ (g.takesValues = false → a.positional = []) := by
    rw [rest]
    cases g.takesValues <;> simp
  exact ⟨fun ⟨hNamed, hFlags, hValues⟩ => ⟨hNamed, hFlags, hPositional.mp hValues⟩,
    fun ⟨hNamed, hFlags, hValues⟩ => ⟨hNamed, hFlags, hPositional.mpr hValues⟩⟩

/-- Arguments whose names occur once are of the forms of these names exactly if each has a form that its value
fits. -/
theorem Arguments.forall_has_iff {a : Arguments} (hOnce : a.names.Nodup) {forms : List ArgumentForm}
    (hForms : (forms.map ArgumentForm.name).Nodup) :
    ((∀ form ∈ forms, a.Has form) ∧ ∀ name ∈ a.names, name ∈ forms.map ArgumentForm.name) ↔
      (∀ x ∈ a.named, ∃ form ∈ forms, form.name = x.1.spelling ∧ form.literal.Fits x.2) ∧
        ∀ form ∈ forms, form.isRequired = true → form.name ∈ a.names := by
  constructor
  · rintro ⟨hHas, hKnown⟩
    constructor
    · intro x hx
      obtain ⟨form, hForm, hName⟩ := List.mem_map.mp (hKnown x.1.spelling (List.mem_map_of_mem hx))
      exact ⟨form, hForm, hName, (hHas form hForm).fits _ ((value?_eq_some_iff hOnce).mpr ⟨x.1, hx, hName.symm⟩)⟩
    · exact fun form hForm hRequired => exists_value?_iff.mp ((hHas form hForm).given hRequired)
  · rintro ⟨hFits, hRequired⟩
    constructor
    · intro form hForm
      refine ⟨fun e hValue => ?_, fun h => exists_value?_iff.mpr (hRequired form hForm h)⟩
      obtain ⟨ident, hx, hName⟩ := (value?_eq_some_iff hOnce).mp hValue
      obtain ⟨other, hOther, hSame, hFit⟩ := hFits _ hx
      obtain rfl := List.inj_on_of_nodup_map hForms hOther hForm (hSame.trans hName)
      exact hFit
    · intro name hName
      obtain ⟨x, hx, rfl⟩ := List.mem_map.mp hName
      obtain ⟨form, hForm, hSame, -⟩ := hFits x hx
      exact List.mem_map.mpr ⟨form, hForm, hSame⟩

/-- An item is as the grammar of its name says. -/
structure AttributeItem.WellFormed (i : AttributeItem) (g : Grammar) : Prop where
  no_value : i.value? = none
  once : (Arguments.ofList i.arguments).names.Nodup
  known : ∀ x ∈ (Arguments.ofList i.arguments).named, ∃ form ∈ g.forms,
    form.name = x.1.spelling ∧ form.literal.Fits x.2
  required : ∀ form ∈ g.forms, form.isRequired = true → form.name ∈ (Arguments.ofList i.arguments).names
  one_message : "message" ∉ (Arguments.ofList i.arguments).names ∨
    "message_key" ∉ (Arguments.ofList i.arguments).names
  no_flags : (Arguments.ofList i.arguments).flags = []
  entries : ∀ e ∈ (Arguments.ofList i.arguments).positional, g.takesValues = true ∧ IsEntry e

theorem exists_constraintOf_iff (i : AttributeItem) :
    (∃ c, constraintOf i = .ok c) ↔ ∃ g, grammar? i.label = some g ∧ i.WellFormed g := by
  have hAbsent (a : Arguments) (name : String) : a.value? name = none ↔ name ∉ a.names := by
    rw [← Arguments.exists_value?_iff, Option.eq_none_iff_forall_ne_some, not_exists]
  have hRead (g : Grammar) (hGrammar : grammar? i.label = some g) :
      (i.value? = none ∧ (∃ c, (Arguments.ofList i.arguments).Declares i.label c) ∧
        ((g.rest (.ofList i.arguments)).without modifierNames).IsEmpty) ↔ i.WellFormed g := by
    have hForms : (g.forms.map ArgumentForm.name).Nodup := g.map_name_forms ▸ names_apart hGrammar
    rw [Arguments.exists_declares_iff hGrammar, g.isEmpty_rest_iff hGrammar, hAbsent, hAbsent, ← g.map_name_forms]
    constructor
    · rintro ⟨hValue, ⟨hHas, hMessage, hEntries⟩, ⟨hOnce, hKnown⟩, hFlags, hValues⟩
      obtain ⟨hFits, hRequired⟩ := (Arguments.forall_has_iff hOnce hForms).mp ⟨hHas, hKnown⟩
      refine ⟨hValue, hOnce, hFits, hRequired, hMessage, hFlags, fun e he => ?_⟩
      cases hTakes : g.takesValues with
      | true => exact ⟨rfl, hEntries hTakes e he⟩
      | false => rw [hValues hTakes] at he; cases he
    · intro hWell
      obtain ⟨hHas, hKnown⟩ := (Arguments.forall_has_iff hWell.once hForms).mpr ⟨hWell.known, hWell.required⟩
      refine ⟨hWell.no_value, ⟨hHas, hWell.one_message, fun _ e he => (hWell.entries e he).2⟩,
        ⟨hWell.once, hKnown⟩, hWell.no_flags, fun hTakes => ?_⟩
      exact List.eq_nil_iff_forall_not_mem.mpr fun e he => by simpa [hTakes] using (hWell.entries e he).1
  simp only [constraintOf_eq_ok_iff]
  constructor
  · rintro ⟨c, hValue, g, hGrammar, hDeclares, hEmpty⟩
    exact ⟨g, hGrammar, (hRead g hGrammar).mp ⟨hValue, ⟨c, hDeclares⟩, hEmpty⟩⟩
  · rintro ⟨g, hGrammar, hWell⟩
    obtain ⟨hValue, ⟨c, hDeclares⟩, hEmpty⟩ := (hRead g hGrammar).mpr hWell
    exact ⟨c, hValue, g, hGrammar, hDeclares, hEmpty⟩

/-- Two expressions stand for the same, whatever they are read as. -/
structure ReadAlike (e e' : Expr) : Prop where
  number : ∀ x, e.number = .ok x ↔ e'.number = .ok x
  size : ∀ n, e.size = .ok n ↔ e'.size = .ok n
  text : ∀ s, e.text = .ok s ↔ e'.text = .ok s
  texts : ∀ texts, e.texts = .ok texts ↔ e'.texts = .ok texts
  value : ∀ v, e.value = .ok v ↔ e'.value = .ok v

theorem ReadAlike.refl (e : Expr) : ReadAlike e e :=
  ⟨fun _ => Iff.rfl, fun _ => Iff.rfl, fun _ => Iff.rfl, fun _ => Iff.rfl, fun _ => Iff.rfl⟩

theorem ReadAlike.symm {e e' : Expr} (h : ReadAlike e e') : ReadAlike e' e :=
  ⟨fun x => (h.number x).symm, fun n => (h.size n).symm, fun s => (h.text s).symm, fun texts => (h.texts texts).symm,
    fun v => (h.value v).symm⟩

/-- The same value under each name and the same values alone. -/
structure Arguments.Same (a b : Arguments) : Prop where
  value : ∀ name, Option.Rel ReadAlike (a.value? name) (b.value? name)
  positional : List.Forall₂ (fun e e' => ∀ texts, listEntry e = .ok texts ↔ listEntry e' = .ok texts) a.positional
    b.positional

theorem Arguments.Same.symm {a b : Arguments} (h : a.Same b) : b.Same a where
  value name := by
    have hValue := h.value name
    generalize a.value? name = e, b.value? name = e' at hValue
    cases hValue with
    | none => exact .none
    | some hAlike => exact .some hAlike.symm
  positional := (h.positional.imp fun _ _ hEntry texts => (hEntry texts).symm).flip

namespace Arguments

variable {a b : Arguments} (h : a.Same b)

include h

theorem Same.gives {α : Type} {r : Expr → Reading α}
    (hRead : ∀ e e', ReadAlike e e' → ∀ v, r e = .ok v ↔ r e' = .ok v) (name : String) (result : Option α) :
    a.Gives name r result ↔ b.Gives name r result := by
  have hValue := h.value name
  unfold Gives
  generalize a.value? name = e, b.value? name = e' at hValue
  cases hValue with
  | none => rfl
  | some hAlike => cases result <;> simp [hRead _ _ hAlike]

theorem Same.lists (name : String) (texts : List String) : a.Lists name texts ↔ b.Lists name texts := by
  simp only [Lists, mapM_congr_iff h.positional, h.gives (fun _ _ hAlike => hAlike.texts)]

theorem Same.isMessage (m : Option MessageSource) :
    IsMessage (a.value? "message") (a.value? "message_key") m ↔
      IsMessage (b.value? "message") (b.value? "message_key") m := by
  have hTemplate := h.value "message"
  have hKey := h.value "message_key"
  generalize a.value? "message" = t, b.value? "message" = t', a.value? "message_key" = k,
    b.value? "message_key" = k' at hTemplate hKey
  cases hTemplate with
  | none =>
    cases hKey with
    | none => rfl
    | some hAlike =>
      constructor
      · rintro ⟨⟩
        exact .resource ((hAlike.text _).mp ‹_›)
      · rintro ⟨⟩
        exact .resource ((hAlike.text _).mpr ‹_›)
  | some hAlike =>
    cases hKey with
    | some => exact ⟨nofun, nofun⟩
    | none =>
      constructor
      · rintro ⟨⟩
        exact .literal ((hAlike.text _).mp ‹_›)
      · rintro ⟨⟩
        exact .literal ((hAlike.text _).mpr ‹_›)

theorem Same.spells (label : String) (r : Rule) : a.Spells label r ↔ b.Spells label r := by
  unfold Spells
  simp only [h.lists, h.gives (r := Expr.size) fun _ _ hAlike => hAlike.size,
    h.gives (r := Expr.number) fun _ _ hAlike => hAlike.number,
    h.gives (r := Expr.text) fun _ _ hAlike => hAlike.text,
    h.gives (r := Expr.value) fun _ _ hAlike => hAlike.value]

theorem Same.declares (label : String) (c : Constraint) (hDeclares : a.Declares label c) : b.Declares label c := by
  obtain ⟨hRule, hMessage, ⟨severity, hSeverity, hDefault⟩, hGroup⟩ := hDeclares
  refine ⟨(h.spells label _).mp hRule, (h.isMessage _).mp hMessage, ⟨severity, ?_, hDefault⟩, ?_⟩
  · refine (h.gives (fun e e' hAlike s => ?_) _ _).mp hSeverity
    simp only [severityOf_eq_ok_iff, hAlike.text]
  · exact (h.gives (fun _ _ hAlike => hAlike.text) _ _).mp hGroup

end Arguments

/-- A constraint depends on its arguments only as far as they are looked up. -/
theorem constraintOf_of_same {i j : AttributeItem} {c : Constraint} (hLabel : i.label = j.label)
    (hValue : i.value? = none → j.value? = none)
    (hNames : (Arguments.ofList i.arguments).names.Perm (Arguments.ofList j.arguments).names)
    (hFlags : (Arguments.ofList i.arguments).flags = [] → (Arguments.ofList j.arguments).flags = [])
    (hSame : (Arguments.ofList i.arguments).names.Nodup → (Arguments.ofList i.arguments).Same (.ofList j.arguments))
    (h : constraintOf i = .ok c) : constraintOf j = .ok c := by
  obtain ⟨hNoValue, g, hGrammar, hDeclares, hEmpty⟩ := (constraintOf_eq_ok_iff i c).mp h
  obtain ⟨⟨hOnce, hKnown⟩, hNoFlags, hNoValues⟩ := (g.isEmpty_rest_iff hGrammar _).mp hEmpty
  refine (constraintOf_eq_ok_iff j c).mpr ⟨hValue hNoValue, g, hLabel ▸ hGrammar,
    hLabel ▸ (hSame hOnce).declares _ c hDeclares, ?_⟩
  refine (g.isEmpty_rest_iff hGrammar _).mpr ⟨⟨hNames.nodup_iff.mp hOnce, fun name hName => ?_⟩, hFlags hNoFlags,
    fun hTakes => ?_⟩
  · exact hKnown name (hNames.mem_iff.mpr hName)
  · have hPositional := (hSame hOnce).positional
    rw [hNoValues hTakes] at hPositional
    exact List.forall₂_nil_left_iff.mp hPositional

namespace Arguments

variable {a b : Arguments}

theorem value?_perm (h : a.named.Perm b.named) (hOnce : a.names.Nodup) (name : String) :
    a.value? name = b.value? name := by
  have hNames : a.names.Perm b.names := h.map _
  ext e
  rw [value?_eq_some_iff hOnce, value?_eq_some_iff (hNames.nodup_iff.mp hOnce)]
  simp only [h.mem_iff]

theorem same_of_perm (h : a.named.Perm b.named) (hPositional : a.positional = b.positional)
    (hOnce : a.names.Nodup) : a.Same b := by
  refine ⟨fun name => ?_, ?_⟩
  · rw [value?_perm h hOnce name]
    cases b.value? name with
    | none => exact .none
    | some e => exact .some (.refl e)
  · rw [hPositional]
    exact List.forall₂_same.mpr fun _ _ _ => Iff.rfl

end Arguments

theorem constraintOf_perm {i : AttributeItem} {as bs : List Argument} {c : Constraint}
    (hContent : i.content = .arguments as) (hPerm : as.Perm bs)
    (hPositional : as.filterMap Arguments.positionalOf = bs.filterMap Arguments.positionalOf)
    (h : constraintOf i = .ok c) : constraintOf { i with content := .arguments bs } = .ok c := by
  obtain ⟨name, _⟩ := i
  cases hContent
  have hNamed : (Arguments.ofList as).named.Perm (Arguments.ofList bs).named := hPerm.filterMap _
  have hFlags : (Arguments.ofList as).flags.Perm (Arguments.ofList bs).flags := hPerm.filterMap _
  refine constraintOf_of_same (i := ⟨name, .arguments as⟩) rfl (fun _ => rfl) (hNamed.map _) (fun hNone => ?_)
    (Arguments.same_of_perm hNamed hPositional) h
  rw [show (Arguments.ofList as).flags = [] from hNone] at hFlags
  exact hFlags.nil_eq.symm

/-- Exactly the well-formed items declare a constraint, and the order of their named arguments is not part of it. -/
theorem constraintOf_accepts (i : AttributeItem) :
    ((∃ c, constraintOf i = .ok c) ↔ ∃ g, grammar? i.label = some g ∧ i.WellFormed g) ∧
      ∀ as bs, i.content = .arguments as → as.Perm bs →
        as.filterMap Arguments.positionalOf = bs.filterMap Arguments.positionalOf →
        ∀ c, constraintOf { i with content := .arguments bs } = .ok c ↔ constraintOf i = .ok c := by
  refine ⟨exists_constraintOf_iff i, fun as bs hContent hPerm hPositional c => ⟨fun h => ?_, ?_⟩⟩
  · have hBack := constraintOf_perm (i := { i with content := .arguments bs }) rfl hPerm.symm hPositional.symm h
    rwa [← hContent] at hBack
  · exact constraintOf_perm hContent hPerm hPositional

def boundArgument (name : String) (n : Nat) : Argument :=
  .named ⟨.start, false, name⟩ ⟨.constant .start (.int n), []⟩

def lengthItem (arguments : List Argument) : AttributeItem :=
  ⟨⟨.start, false, "length"⟩, .arguments arguments⟩

theorem constraintOf_swapped :
    constraintOf (lengthItem [boundArgument "max" 5, boundArgument "min" 1]) = .ok { rule := .length 1 5 } :=
  ((constraintOf_accepts (lengthItem [boundArgument "min" 1, boundArgument "max" 5])).2 _ _ rfl (.swap _ _ _) rfl
    _).mpr rfl

end Derive
end FieldRules
