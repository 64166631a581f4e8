import FieldRules.Proofs.Derive.Instance
import FieldRules.Proofs.Derive.Items

/-!
# Refusals

Everything that is wrong with the attributes of a structure is reported together. What is wrong with an item is seen
from the item itself and, for a directive, from the items before it; that one of those was refused makes no
difference. Only if nothing is refused is the declaration checked, and then all of its errors are reported.
-/
set_option autoImplicit false

namespace FieldRules

namespace Source

def refusal? {α : Type} : Reading α → Option Diagnostic
  | .ok _ => none
  | .error d => some d

theorem refusal?_bind_pure {α β : Type} (r : Reading α) (k : α → β) :
    refusal? (do return k (← r)) = refusal? r := by
  cases r <;> rfl

end Source

namespace Derive

open Source

/-- The items in the attributes of rules, in order. An attribute that cannot be read stands for itself. -/
def writtenClauses (attributes : List Attribute) : List (Reading AttributeItem) :=
  (attributes.filter (·.isNamed attributeName)).flatMap fun a =>
    match attributeItems a with
    | .ok items => items.map .ok
    | .error d => [.error d]

/-- One diagnostic for each clause that is refused. An item is judged with all items that are written before it. -/
def refusals (judge : List AttributeItem → AttributeItem → Option Diagnostic) :
    List AttributeItem → List (Reading AttributeItem) → List Diagnostic
  | _, [] => []
  | before, .error d :: rest => d :: refusals judge before rest
  | before, .ok i :: rest => (judge before i).toList ++ refusals judge (before ++ [i]) rest

section Applied

variable {σ : Type} {apply : σ → AttributeItem → Reading σ}

def applyClause (apply : σ → AttributeItem → Reading σ) (s : σ × List Diagnostic) :
    Reading AttributeItem → σ × List Diagnostic
  | .ok i => applyItems.applyOne apply s i
  | .error d => (s.1, s.2 ++ [d])

/-- Attributes only group the clauses that are written in them. -/
theorem applyItems_eq_foldl (start : σ) (attributes : List Attribute) :
    applyItems apply start attributes = (writtenClauses attributes).foldl (applyClause apply) (start, []) := by
  rw [applyItems, writtenClauses, List.foldl_flatMap]
  congr 1
  funext s a
  rw [applyItems.applyAttribute]
  cases attributeItems a with
  | ok items =>
    rw [List.foldl_map]
    rfl
  | error d => rfl

/-- Items are refused as they are judged, as long as the state is one that the items before can leave. -/
structure JudgedBy (apply : σ → AttributeItem → Reading σ)
    (judge : List AttributeItem → AttributeItem → Option Diagnostic) (P : List AttributeItem → σ → Prop) : Prop where
  refusal?_eq : ∀ before s i, P before s → refusal? (apply s i) = judge before i
  keeps : ∀ before s i t, P before s → apply s i = .ok t → P (before ++ [i]) t
  passes : ∀ before s i d, P before s → apply s i = .error d → P (before ++ [i]) s

variable {judge : List AttributeItem → AttributeItem → Option Diagnostic} {P : List AttributeItem → σ → Prop}

theorem JudgedBy.applyOne (h : JudgedBy apply judge P) {before : List AttributeItem} {s : σ} (hs : P before s)
    (refused : List Diagnostic) (i : AttributeItem) :
    ∃ t, applyItems.applyOne apply (s, refused) i = (t, refused ++ (judge before i).toList) ∧
      P (before ++ [i]) t := by
  have hJudged := h.refusal?_eq before s i hs
  rw [applyItems.applyOne]
  cases hApply : apply s i with
  | ok t =>
    rw [hApply] at hJudged
    rw [← hJudged]
    exact ⟨t, by simp [refusal?], h.keeps before s i t hs hApply⟩
  | error d =>
    rw [hApply] at hJudged
    rw [← hJudged]
    exact ⟨s, rfl, h.passes before s i d hs hApply⟩

/-- By induction on the clauses: each adds the diagnostic of its own, and none is lost. -/
theorem JudgedBy.snd_foldl (h : JudgedBy apply judge P) (clauses : List (Reading AttributeItem))
    {before : List AttributeItem} {s : σ} (hs : P before s) (refused : List Diagnostic) :
    (clauses.foldl (applyClause apply) (s, refused)).2 = refused ++ refusals judge before clauses := by
  induction clauses generalizing before s refused with
  | nil => exact (List.append_nil refused).symm
  | cons clause rest ih =>
    rw [List.foldl_cons]
    cases clause with
    | error d =>
      rw [applyClause, ih hs, refusals, List.append_assoc]
      rfl
    | ok i =>
      obtain ⟨t, hStep, ht⟩ := h.applyOne hs refused i
      rw [applyClause, hStep, ih ht, refusals, List.append_assoc]

theorem JudgedBy.snd_applyItems (h : JudgedBy apply judge P) {start : σ} (hStart : P [] start)
    (attributes : List Attribute) :
    (applyItems apply start attributes).2 = refusals judge [] (writtenClauses attributes) := by
  rw [applyItems_eq_foldl, h.snd_foldl _ hStart, List.nil_append]

end Applied

def ModelOptions.refusal? (i : AttributeItem) : Option Diagnostic :=
  match i.name.spelling with
  | "hook" => Source.refusal? (i.requiredValue >>= Expr.functionPath)
  | "name" => Source.refusal? i.requiredText
  | _ => some ⟨i.spot, s!"unknown model attribute \x60{i.label}\x60; expected \x60hook\x60 or \x60name\x60"⟩

theorem ModelOptions.applyItem_judgedBy :
    JudgedBy ModelOptions.applyItem (fun _ => ModelOptions.refusal?) fun _ _ => True where
  refusal?_eq before o i _ := by
    by_cases hHook : i.name.spelling = "hook"
    · simp only [applyItem, refusal?, hHook]
      cases i.requiredValue with
      | error d => rfl
      | ok e => exact refusal?_bind_pure e.functionPath _
    · by_cases hName : i.name.spelling = "name"
      · simp only [applyItem, refusal?, hName]
        exact refusal?_bind_pure i.requiredText _
      · simp only [applyItem, refusal?]
        rfl
  keeps _ _ _ _ _ _ := trivial
  passes _ _ _ _ _ _ := trivial

def AttributeItem.givesDirective (i : AttributeItem) : Bool :=
  i.kind = .directive && (directiveOf i).isOk

/-- What is wrong with an item of a field, given the type of the field and the items before. -/
def AnnotatedField.refusal? (type : FieldType) (before : List AttributeItem) (i : AttributeItem) :
    Option Diagnostic :=
  match i.kind with
  | .name | .displayName => Source.refusal? i.requiredText
  | .directive =>
    if !type.isTextual then
      some ⟨i.spot, s!"\x60sanitize\x60 cannot be applied to a field of type {type.name}"⟩
    else if before.any AttributeItem.givesDirective then
      some ⟨i.spot, "a field accepts at most one \x60sanitize(...)\x60 directive"⟩
    else Source.refusal? (directiveOf i)
  | .validator => Source.refusal? (validatorOf i)
  | .constraint => Source.refusal? (constraintOf i)

/-- A field has a directive exactly if an item before gave one and the field takes it. -/
structure AnnotatedField.Follows (type : FieldType) (before : List AttributeItem) (a : AnnotatedField) : Prop where
  type_eq : a.fieldType = type
  isSome_sanitize : a.sanitize.isSome = (type.isTextual && before.any AttributeItem.givesDirective)

namespace AnnotatedField

variable {type : FieldType} {before : List AttributeItem} {a b : AnnotatedField} {i : AttributeItem}

theorem Follows.refusal?_eq (h : a.Follows type before) : Source.refusal? (a.applyItem i) = refusal? type before i := by
  have hSome := h.isSome_sanitize
  rw [applyItem_eq_of_kind, refusal?, h.type_eq, hSome]
  cases i.kind with
  | directive =>
    cases type.isTextual with
    | false => rfl
    | true =>
      cases before.any AttributeItem.givesDirective with
      | true => rfl
      | false => exact refusal?_bind_pure (directiveOf i) _
  | name | displayName => exact refusal?_bind_pure i.requiredText _
  | validator => exact refusal?_bind_pure (validatorOf i) _
  | constraint => exact refusal?_bind_pure (constraintOf i) _

theorem Follows.applied (h : a.Follows type before) (hApply : a.applyItem i = .ok b) :
    b.Follows type (before ++ [i]) := by
  have hSome := h.isSome_sanitize
  rw [applyItem_eq_of_kind] at hApply
  cases hKind : i.kind with
  | directive =>
    simp only [hKind] at hApply
    split at hApply
    · cases hApply
    · split at hApply
      · cases hApply
      · next hTextual =>
        obtain ⟨d, hd, rfl⟩ := bind_pure_eq_ok_iff.mp hApply
        have hGiven : i.givesDirective = true := by
          simp [AttributeItem.givesDirective, hKind, hd, Except.isOk, Except.toBool]
        have hType : type.isTextual = true := by simpa [h.type_eq] using hTextual
        exact ⟨h.type_eq, by simp [hGiven, hType]⟩
  | name | displayName | validator | constraint =>
    simp only [hKind] at hApply
    obtain ⟨_, -, rfl⟩ := bind_pure_eq_ok_iff.mp hApply
    exact ⟨h.type_eq, by simp [hSome, AttributeItem.givesDirective, hKind]⟩

theorem Follows.refused (h : a.Follows type before) {d : Diagnostic} (hApply : a.applyItem i = .error d) :
    a.Follows type (before ++ [i]) := by
  have hRefused := h.refusal?_eq (i := i)
  refine ⟨h.type_eq, ?_⟩
  rw [h.isSome_sanitize, List.any_append, List.any_cons, List.any_nil, Bool.or_false]
  cases hGiven : i.givesDirective with
  | false => rw [Bool.or_false]
  | true =>
    -- A directive that can be read is refused for its type or for one before it.
    obtain ⟨hKind, hRead⟩ : i.kind = .directive ∧ (directiveOf i).isOk = true := by
      simpa [AttributeItem.givesDirective] using hGiven
    rw [hApply, refusal?, hKind] at hRefused
    cases hType : type.isTextual with
    | false => rfl
    | true =>
      cases hBefore : before.any AttributeItem.givesDirective with
      | true => rfl
      | false =>
        cases hDirective : directiveOf i with
        | ok _ => simp [hType, hBefore, hDirective, Source.refusal?] at hRefused
        | error _ =>
          rw [hDirective] at hRead
          cases hRead

theorem applyItem_judgedBy (type : FieldType) :
    JudgedBy applyItem (refusal? type) fun before a => a.Follows type before where
  refusal?_eq _ _ _ h := h.refusal?_eq
  keeps _ _ _ _ h hApply := h.applied hApply
  passes _ _ _ _ h hApply := h.refused hApply

end AnnotatedField

def refusalsOfField (f : Field) : List Diagnostic :=
  refusals (AnnotatedField.refusal? (Derive.fieldType f.type).1) [] (writtenClauses f.attributes)

theorem snd_readField (f : Field) : (readField f).2 = refusalsOfField f :=
  (AnnotatedField.applyItem_judgedBy _).snd_applyItems (by exact ⟨rfl, by simp [AnnotatedField.ofField]⟩) f.attributes

namespace AnnotatedModel

/-- Everything that is wrong with the attributes of a structure: first with its own, then with those of each field. -/
def refusalsOf (i : Item) (fields : List Field) : List Diagnostic :=
  refusals (fun _ => ModelOptions.refusal?) [] (writtenClauses i.attributes) ++ fields.flatMap refusalsOfField

theorem refusalsOf_eq (i : Item) (fields : List Field) :
    (applyItems ModelOptions.applyItem { name := i.ident.text } i.attributes).2 ++
      (fields.map readField).flatMap Prod.snd = refusalsOf i fields := by
  rw [refusalsOf, ModelOptions.applyItem_judgedBy.snd_applyItems trivial, List.flatMap_map]
  congr 1
  exact List.flatMap_congr fun f _ => snd_readField f

/-- Every attribute that cannot be read and every item that is refused is reported, each of them once and in order; if
there is none, every error of the declaration is. -/
theorem ofItem_reports {i : Item} {fields : List Field} (hBody : i.body = .named fields) :
    (refusalsOf i fields ≠ [] → ofItem i = .error (refusalsOf i fields)) ∧
    (refusalsOf i fields = [] →
      ofItem i = (if (unchecked i fields).declaration.errors = [] then .ok (unchecked i fields)
        else .error (unchecked i fields).diagnostics) ∧
      (unchecked i fields).diagnostics.map Diagnostic.message =
        (unchecked i fields).declaration.errors.map DeclarationError.message) := by
  have hRefused := refusalsOf_eq i fields
  have hItem : ofItem i = ofFields i fields := by rw [ofItem, hBody]
  refine ⟨fun hSome => ?_, fun hNone => ⟨?_, ?_⟩⟩
  · rw [hItem]
    simp only [ofFields, hRefused]
  · rw [hNone] at hRefused
    rw [hItem, ofFields_of_reads ((refused_eq_nil_iff i fields).mp hRefused), diagnostics]
    simp only [List.map_eq_nil_iff]
  · rw [diagnostics, List.map_map]
    rfl

end AnnotatedModel

end Derive

/-! Two drafts of `Signup`. The first has attributes and items that are refused. In the second all of them are read, but
the length has no room and the other rule reads a field that was given another name. -/

namespace Signup

open Source Derive

/-- Of the directives the second is the first that can be read, and it rules out the third. -/
def draftNick : Field :=
  { nick with attributes :=
      [rules (separate [word "sanitize" ++ parens (word "strip"), word "sanitize" ++ parens (word "trim"),
          word "sanitize" ++ parens (word "upper")]),
        ⟨.start, false, [attributeName], .nothing⟩,
        rules (separate [given "rename" (textLiteral "nickname"), word "length" ++ parens (word "max")])] }

def draft : Item :=
  { item [rules (separate [word "hook", given "name" (textLiteral "Draft"), word "strict"])] with
    body := .named [draftNick, age] }

def draftMessages : List String :=
  ["\x60hook\x60 expects a value: \x60hook = ...\x60",
    "unknown model attribute \x60strict\x60; expected \x60hook\x60 or \x60name\x60",
    "unknown sanitize option \x60strip\x60; expected \x60trim\x60, \x60upper\x60 or \x60lower\x60",
    "a field accepts at most one \x60sanitize(...)\x60 directive",
    "expected attribute arguments in parentheses: #[validate(...)]",
    "\x60length\x60 requires \x60max = ...\x60"]

def narrowNick : Field :=
  { nick with attributes :=
      [rules (separate [given "rename" (textLiteral "nickname"),
        word "length" ++ parens (separate [given "min" (intLiteral 3 ""), given "max" (intLiteral 1 "")])])] }

def narrow : Item :=
  { item [] with body := .named [narrowNick, age] }

def narrowMessages : List String :=
  ["model 'Signup': field 'nickname' has invalid string_length bounds (min: 3, max: 1)",
    "model 'Signup': field 'age' references unknown field 'nick' in conditional_range"]

end Signup

namespace Derive.AnnotatedModel

open Source

theorem ofItem_reports_drafts :
    (Signup.draft.body = .named [Signup.draftNick, Signup.age] ∧
      ofItem Signup.draft = .error (refusalsOf Signup.draft [Signup.draftNick, Signup.age]) ∧
      (refusalsOf Signup.draft [Signup.draftNick, Signup.age]).map Diagnostic.message = Signup.draftMessages) ∧
    Signup.narrow.body = .named [Signup.narrowNick, Signup.age] ∧
      ∃ reported, ofItem Signup.narrow = .error reported ∧
        reported.map Diagnostic.message = Signup.narrowMessages := by
  have hRefused :
      (refusalsOf Signup.draft [Signup.draftNick, Signup.age]).map Diagnostic.message = Signup.draftMessages := by
    decide +kernel
  have hErrors : (unchecked Signup.narrow [Signup.narrowNick, Signup.age]).declaration.errors.map
      DeclarationError.message = Signup.narrowMessages := by
    decide +kernel
  have hSome : refusalsOf Signup.draft [Signup.draftNick, Signup.age] ≠ [] := by
    intro hNone
    rw [hNone] at hRefused
    cases hRefused
  have hNone : refusalsOf Signup.narrow [Signup.narrowNick, Signup.age] = [] := by decide +kernel
  have hFailing : (unchecked Signup.narrow [Signup.narrowNick, Signup.age]).declaration.errors ≠ [] := by
    intro hEmpty
    rw [hEmpty] at hErrors
    cases hErrors
  obtain ⟨hModel, hMessages⟩ := (ofItem_reports (i := Signup.narrow) rfl).2 hNone
  rw [if_neg hFailing] at hModel
  exact ⟨⟨rfl, (ofItem_reports rfl).1 hSome, hRefused⟩, rfl, _, hModel, hMessages.trans hErrors⟩

end Derive.AnnotatedModel
end FieldRules
