import FieldRules.Proofs.Derive.Arguments

/-!
# What items of constraints say

The grammar of each constraint, apart from its reader: which arguments it has, what literals they are, and which of
them have to be given. A constraint is what its arguments spell, with what the modifiers add, and is read exactly if
the grammar leaves no argument over.
-/
set_option autoImplicit false

namespace FieldRules

/-- How severities are written, in any case. -/
def IsSeverity (text : String) : Prop :=
  text.map Char.toLower ∈ ["error", "warning", "warn", "info"]

namespace Derive

open Source

inductive LiteralForm where
  | size
  | number
  | text
  | texts
  | value
  | severity

def LiteralForm.Fits : LiteralForm → Expr → Prop
  | size => Expr.IsSize
  | number => Expr.IsNumber
  | text => Expr.IsText
  | texts => Expr.IsTexts
  | value => Expr.IsValue
  | severity => fun e => ∃ s, e.Says s ∧ IsSeverity s

/-- An entry of a list: an array of texts, or a literal with a text of its own. -/
inductive IsEntry : Expr → Prop where
  | array (spot : Spot) {items : List Expr} (h : ∀ e ∈ items, e.IsText) : IsEntry (.array spot items)
  | displayed {e : Expr} (h : e.IsDisplayed) : IsEntry e

structure ArgumentForm where
  name : String
  literal : LiteralForm
  isRequired : Bool

/-- The arguments of a constraint, apart from those that all constraints have. -/
structure Grammar where
  arguments : List ArgumentForm := []
  /-- Whether values may stand alone. -/
  takesValues : Bool := false

def grammar? (label : String) : Option Grammar :=
  match label with
  | "required" | "email" | "url" | "credit_card" | "phone" | "future_date" => some {}
  | "length" => some { arguments := [⟨"min", .size, false⟩, ⟨"max", .size, true⟩] }
  | "range" => some { arguments := [⟨"min", .number, true⟩, ⟨"max", .number, true⟩] }
  | "file_extension" | "file_extensions" =>
    some { arguments := [⟨"extensions", .texts, false⟩], takesValues := true }
  | "allowed_values" => some { arguments := [⟨"values", .texts, false⟩], takesValues := true }
  | "required_if" => some { arguments := [⟨"field", .text, true⟩, ⟨"equals", .value, true⟩] }
  | "conditional_range" =>
    some
      { arguments :=
          [⟨"field", .text, true⟩, ⟨"equals", .value, true⟩, ⟨"min", .number, true⟩, ⟨"max", .number, true⟩] }
  | _ => none

def modifiers : List ArgumentForm :=
  [⟨"message", .text, false⟩, ⟨"message_key", .text, false⟩, ⟨"severity", .severity, false⟩,
    ⟨"group", .text, false⟩]

def Grammar.names (g : Grammar) : List String :=
  g.arguments.map ArgumentForm.name

def Grammar.rest (g : Grammar) (a : Arguments) : Arguments :=
  { a.without g.names with positional := if g.takesValues then [] else a.positional }

namespace Arguments

/-- The values alone and those under a name are listed in this order. -/
def Lists (a : Arguments) (name : String) (texts : List String) : Prop :=
  ∃ entries, a.positional.mapM listEntry = .ok entries ∧ ∃ more, a.Gives name Expr.texts more ∧
    texts = entries.flatten ++ more.getD []

/-- The rule that arguments spell under the name of a constraint. -/
def Spells (a : Arguments) (label : String) (r : Rule) : Prop :=
  match label with
  | "required" => r = .required
  | "length" => ∃ min, a.Gives "min" Expr.size min ∧ ∃ max, a.Gives "max" Expr.size (some max) ∧
    r = .length (min.getD 0) max
  | "range" => ∃ min, a.Gives "min" Expr.number (some min) ∧ ∃ max, a.Gives "max" Expr.number (some max) ∧
    r = .range min max
  | "email" => r = .email
  | "url" => r = .url
  | "credit_card" => r = .creditCard
  | "phone" => r = .phone
  | "future_date" => r = .futureDate
  | "file_extension" | "file_extensions" => ∃ texts, a.Lists "extensions" texts ∧ r = .fileExtension texts
  | "allowed_values" => ∃ texts, a.Lists "values" texts ∧ r = .allowedValues texts
  | "required_if" => ∃ other, a.Gives "field" Expr.text (some other) ∧
    ∃ target, a.Gives "equals" Expr.value (some target) ∧ r = .requiredIf other target
  | "conditional_range" => ∃ other, a.Gives "field" Expr.text (some other) ∧
    ∃ target, a.Gives "equals" Expr.value (some target) ∧
    ∃ min, a.Gives "min" Expr.number (some min) ∧ ∃ max, a.Gives "max" Expr.number (some max) ∧
    r = .conditionalRange other target min max
  | _ => False

end Arguments

theorem finds_mapM {α β : Type} (read : α → Reading β) (items : List α) :
    Finds (items.mapM fun e => (liftM (read e) : ArgumentReader β)) (fun _ values => items.mapM read = .ok values)
      id := by
  induction items with
  | nil =>
    refine .congr (.pure []) fun a values => ?_
    exact ⟨fun h => h ▸ rfl, fun h => (Except.ok.inj h).symm⟩
  | cons e rest ih =>
    simp only [List.mapM_cons]
    refine .congr (.bind (.lift (read e)) (fun v => .map ih (v :: ·)) fun _ _ _ => Iff.rfl) fun a values => ?_
    rw [bind_eq_ok_iff]
    refine exists_congr fun v => and_congr_right' ?_
    rw [bind_pure_eq_ok_iff]
    exact exists_congr fun values => and_congr_right' eq_comm

theorem finds_textList (name : String) :
    Finds (textList name) (fun a texts => a.Lists name texts) fun a =>
      { a.without [name] with positional := [] } := by
  intro a texts rest
  -- once the values alone are put aside, the rest of the reader does not see them
  have hRest : Finds (do
      let entries ← a.positional.mapM fun e => (liftM (listEntry e) : ArgumentReader (List String))
      let more ← AttributeItem.named? name Expr.texts
      return entries.flatten ++ more.getD [])
      (fun b texts => ∃ entries, a.positional.mapM listEntry = .ok entries ∧
        ∃ more, b.Gives name Expr.texts more ∧ texts = entries.flatten ++ more.getD [])
      (Arguments.without [name]) :=
    .bind (finds_mapM listEntry a.positional) (fun entries => .map (.named? name _) _) fun _ _ _ => Iff.rfl
  exact hRest { a with positional := [] } texts rest

/-- The reader of a rule finds what its arguments spell and leaves the arguments that its grammar does not have. -/
theorem finds_ruleOf {i : AttributeItem} {g : Grammar} (h : grammar? i.label = some g) :
    Finds (ruleOf i) (fun a r => a.Spells i.label r) g.rest := by
  unfold ruleOf
  split
  case h_1 hLabel | h_4 hLabel | h_5 hLabel | h_6 hLabel | h_7 hLabel | h_8 hLabel =>
    rw [hLabel] at h ⊢
    cases h
    exact .pure _
  case h_2 hLabel =>
    rw [hLabel] at h ⊢
    cases h
    refine .bind (.named? _ _) (fun min => .map (.named i _ _) _) fun min a r => ?_
    simp only [Arguments.gives_without, List.mem_singleton, String.reduceEq, not_false_eq_true]
  case h_3 hLabel | h_12 hLabel =>
    rw [hLabel] at h ⊢
    cases h
    refine .bind (.named i _ _) (fun v => .map (.named i _ _) _) fun v a r => ?_
    simp only [Arguments.gives_without, List.mem_singleton, String.reduceEq, not_false_eq_true]
  case h_9 hLabel | h_10 hLabel | h_11 hLabel =>
    rw [hLabel] at h ⊢
    cases h
    exact .map (finds_textList _) _
  case h_13 hLabel =>
    rw [hLabel] at h ⊢
    cases h
    refine .bind (.named i _ _) (fun other => .bind (.named i _ _) (fun target =>
      .bind (.named i _ _) (fun min => .map (.named i _ _) _) ?_) ?_) ?_
    all_goals
      intro v a r
      simp only [Arguments.gives_without, List.mem_singleton, String.reduceEq, not_false_eq_true]
  case h_14 =>
    unfold grammar? at h
    split at h <;> contradiction

theorem ruleOf_unknown {i : AttributeItem} (h : grammar? i.label = none) (a : Arguments)
    (result : Rule × Arguments) : (ruleOf i).run a ≠ .ok result := by
  unfold grammar? at h
  split at h
  all_goals try cases h
  unfold ruleOf
  split <;> first | contradiction | nofun

namespace Arguments

/-- The message that is read from what stands under its two names. There may be a template or a key. -/
inductive IsMessage : Option Expr → Option Expr → Option MessageSource → Prop where
  | literal {e : Expr} {template : String} (h : e.text = .ok template) :
    IsMessage (some e) none (some (.literal template))
  | resource {e : Expr} {key : String} (h : e.text = .ok key) : IsMessage none (some e) (some (.resource key))
  | none : IsMessage none none none

/-- The constraint that arguments declare under the name of a constraint. -/
structure Declares (a : Arguments) (label : String) (c : Constraint) : Prop where
  rule : a.Spells label c.rule
  message : IsMessage (a.value? "message") (a.value? "message_key") c.message
  severity : ∃ severity, a.Gives "severity" severityOf severity ∧ c.severity = severity.getD .error
  group : a.Gives "group" Expr.text c.group

theorem gives_pure_iff {a : Arguments} {name : String} {found : Option Expr} :
    a.Gives name pure found ↔ a.value? name = found := by
  rw [Gives]
  constructor
  · intro h
    generalize a.value? name = e at h
    cases h with
    | some h =>
      cases h
      rfl
    | none => rfl
  · rintro rfl
    cases a.value? name with
    | none => exact .none
    | some e => exact .some rfl

end Arguments

theorem finds_messageSource :
    Finds messageSource (fun a m => Arguments.IsMessage (a.value? "message") (a.value? "message_key") m)
      (Arguments.without ["message", "message_key"]) := by
  unfold messageSource
  refine .congr (.bind (M := Arguments.without ["message_key"]) (.named? "message" pure) (fun template =>
    .bind (M := id) (.named? "message_key" pure) (Q := fun key _ m => Arguments.IsMessage template key m)
      (fun key => ?_) fun _ _ _ => Iff.rfl) fun template a m => ?_) fun a m => ?_
  · cases template with
    | some template =>
      cases key with
      | some key => exact .congr (.lift _) fun a m => ⟨nofun, nofun⟩
      | none =>
        refine .congr (.map (.lift template.text) _) fun a m => ⟨?_, ?_⟩
        · rintro ⟨text, hText, rfl⟩
          exact .literal hText
        · intro h
          cases h with
          | literal hText => exact ⟨_, hText, rfl⟩
    | none =>
      cases key with
      | some key =>
        refine .congr (.map (.lift key.text) _) fun a m => ⟨?_, ?_⟩
        · rintro ⟨text, hText, rfl⟩
          exact .resource hText
        · intro h
          cases h with
          | resource hText => exact ⟨_, hText, rfl⟩
      | none =>
        refine .congr (.pure none) fun a m => ⟨?_, ?_⟩
        · rintro rfl
          exact .none
        · rintro ⟨⟩
          rfl
  · simp only [Arguments.gives_without, List.mem_singleton, String.reduceEq, not_false_eq_true]
  · simp only [Arguments.gives_pure_iff]
    constructor
    · rintro ⟨template, rfl, key, rfl, h⟩
      exact h
    · exact fun h => ⟨_, rfl, _, rfl, h⟩

def modifierNames : List String :=
  modifiers.map ArgumentForm.name

theorem names_apart {label : String} {g : Grammar} (h : grammar? label = some g) :
    (g.names ++ modifierNames).Nodup := by
  unfold grammar? at h
  split at h <;> first | (cases h; decide) | contradiction

section Rest

variable {g : Grammar} {label : String} (h : grammar? label = some g) {name : String} (hName : name ∈ modifierNames)

include h hName

theorem Grammar.value?_rest (a : Arguments) : (g.rest a).value? name = a.value? name := by
  have hApart := (List.nodup_append.mp (names_apart h)).2.2
  exact Arguments.value?_without (fun hOwn => hApart name hOwn name hName rfl) a

theorem Grammar.gives_rest {α : Type} (a : Arguments) {read : Expr → Reading α} {result : Option α} :
    (g.rest a).Gives name read result ↔ a.Gives name read result := by
  rw [Arguments.Gives, Arguments.Gives, g.value?_rest h hName]

end Rest

theorem finds_constraint {i : AttributeItem} {g : Grammar} (h : grammar? i.label = some g) :
    Finds (do
      let rule ← ruleOf i
      let message ← messageSource
      let severity ← AttributeItem.named? "severity" severityOf
      let group ← AttributeItem.named? "group" Expr.text
      return ({ rule, message, severity := severity.getD .error, group } : Constraint))
      (fun a c => a.Declares i.label c) (Arguments.without modifierNames ∘ g.rest) := by
  have hGroup (rule : Rule) (message : Option MessageSource) (severity : Option Severity) :=
    Finds.map (.named? "group" Expr.text) fun group =>
      ({ rule, message, severity := severity.getD .error, group } : Constraint)
  have hSeverity (rule : Rule) (message : Option MessageSource) :=
    Finds.bind (.named? "severity" severityOf) (hGroup rule message) fun severity a c => by
      simp only [Arguments.gives_without, List.mem_singleton, String.reduceEq, not_false_eq_true]
  have hMessage (rule : Rule) :=
    Finds.bind finds_messageSource (hSeverity rule) fun message a c => by
      simp only [Arguments.gives_without, List.mem_cons, List.not_mem_nil, String.reduceEq, or_self,
        not_false_eq_true]
  refine .congr (.bind (finds_ruleOf h) hMessage fun rule a c => ?_) fun a c => ?_
  · simp only [g.value?_rest h (show "message" ∈ modifierNames by decide),
      g.value?_rest h (show "message_key" ∈ modifierNames by decide),
      g.gives_rest h (show "severity" ∈ modifierNames by decide),
      g.gives_rest h (show "group" ∈ modifierNames by decide)]
  · constructor
    · rintro ⟨rule, hRule, message, hMessage, severity, hSeverity, group, hGroup, rfl⟩
      exact ⟨hRule, hMessage, ⟨severity, hSeverity, rfl⟩, hGroup⟩
    · obtain ⟨rule, message, _, group⟩ := c
      rintro ⟨hRule, hMessage, ⟨severity, hSeverity, rfl⟩, hGroup⟩
      exact ⟨rule, hRule, message, hMessage, severity, hSeverity, group, hGroup, rfl⟩

theorem constraintOf_eq_ok_iff (i : AttributeItem) (c : Constraint) :
    constraintOf i = .ok c ↔ i.value? = none ∧ ∃ g, grammar? i.label = some g ∧
      (Arguments.ofList i.arguments).Declares i.label c ∧
      ((g.rest (.ofList i.arguments)).without modifierNames).IsEmpty := by
  rw [constraintOf]
  split
  · next hValue => exact ⟨nofun, fun h => by rw [hValue] at h; cases h.1⟩
  · next hValue =>
    cases hGrammar : grammar? i.label with
    | some g =>
      rw [(finds_constraint hGrammar).readArguments_eq_ok_iff]
      simp [hValue]
    | none =>
      simp only [hValue, reduceCtorEq, false_and, exists_false, and_false, iff_false]
      intro hRead
      obtain ⟨_, hRun, -⟩ := bind_eq_ok_iff.mp hRead
      obtain ⟨result, hRule, -⟩ := bind_eq_ok_iff.mp hRun
      exact ruleOf_unknown hGrammar _ result hRule

end Derive
end FieldRules
