import FieldRules.Derive.Attribute
import FieldRules.Source.Construct
import FieldRules.Proofs.Source.Values

/-!
# Attributes as they are written

Which items an attribute can have, and which trees they are written with, in any places and with or without a comma
behind the last item and the last argument. What is read from these trees are the items.
-/
set_option autoImplicit false

namespace FieldRules.Derive

open Source Source.Parsing

/-- A name that items and arguments may have. It may be a keyword, but not a truth value or the underscore. -/
def IsItemName (name : Ident) : Prop :=
  name.raw = false ∧ name.text ∉ ["true", "false", "_"]

instance (name : Ident) : Decidable (IsItemName name) :=
  inferInstanceAs (Decidable (_ ∧ _))

def Term.IsValue (v : Term) : Prop :=
  WrittenValue v.trees v.expr

def isNameAlone : Expr → Bool
  | .path _ p => p.name?.isSome
  | _ => false

def Argument.IsWritable : Argument → Prop
  | flag name => IsItemName name
  | named name v => IsItemName name ∧ v.IsValue
  | positional v => v.IsValue ∧ isNameAlone v.expr = false

def ItemContent.IsWritable : ItemContent → Prop
  | nothing => True
  | value v => v.IsValue
  | arguments as => ∀ a ∈ as, a.IsWritable

def AttributeItem.IsWritable (i : AttributeItem) : Prop :=
  IsItemName i.name ∧ i.content.IsWritable

inductive WrittenArgument : List Tree → Argument → Prop where
  | flag (name : Ident) : WrittenArgument [name.tree] (.flag name)
  | named (name : Ident) (equals : Spot) (joint : Bool) (v : Term) :
      WrittenArgument (name.tree :: .mark equals '=' joint :: v.trees) (.named name v)
  | positional (v : Term) : WrittenArgument v.trees (.positional v)

inductive WrittenItem : List Tree → AttributeItem → Prop where
  | bare (name : Ident) : WrittenItem [name.tree] ⟨name, .nothing⟩
  | value (name : Ident) (equals : Spot) (joint : Bool) (v : Term) :
      WrittenItem (name.tree :: .mark equals '=' joint :: v.trees) ⟨name, .value v⟩
  | arguments (name : Ident) (opening closing : Spot) {content : List Tree} {as : List Argument}
      (h : Separated WrittenArgument content as) :
      WrittenItem [name.tree, .group opening closing .paren content] ⟨name, .arguments as⟩

theorem term_reads {v : Term} (h : v.IsValue) {rest : List Tree} (hRest : EndsItem rest) (closing : Spot) :
    term ⟨v.trees ++ rest, closing⟩ = .ok (v, ⟨rest, closing⟩) := by
  have hRead := readsItems_expression (sizeOfTrees v.trees) h (Nat.le_refl _) hRest closing
  rw [term]
  exact bind_ok (taken_ok hRead) _

section Arguments

variable {rest : List Tree}

theorem startsValue_name {name : Ident} (h : IsItemName name) : startsValue (name.tree :: rest) = false := by
  obtain ⟨spot, raw, text⟩ := name
  obtain ⟨rfl, hText⟩ := h
  simp only [List.mem_cons, not_or] at hText
  obtain ⟨hTrue, hFalse, -⟩ := hText
  simp [startsValue, Ident.tree, isLiteralStart, Tree.isMark, Tree.isGroup, hTrue, hFalse]

/-- A double colon stands behind the first name of a path that is not alone. -/
theorem colons_of_not_alone {spot : Spot} {raw : Bool} {text : String} {ts : List Tree} {p : Path}
    (h : WrittenPath true (.name spot raw text :: ts) p) (hAlone : p.name? = none) :
    ∃ first second joint us, ts = .mark first ':' true :: .mark second ':' joint :: us := by
  generalize hTrees : Tree.name spot raw text :: ts = trees at h
  cases h with
  | rooted => cases hTrees
  | names h =>
    cases h with
    | last h =>
      cases h with
      | name h => cases hAlone
      | generic h hArguments => exact ⟨_, _, _, _, (List.cons_eq_cons.mp hTrees).2⟩
    | cons h hRest =>
      cases h with
      | name h | generic h hArguments => exact ⟨_, _, _, _, (List.cons_eq_cons.mp hTrees).2⟩

/-- What starts with a literal, a minus or a bracket is no name. -/
theorem startsValue_of_isValue {ts : List Tree} {e : Expr} (h : WrittenValue ts e) (rest : List Tree) :
    startsValue (ts ++ rest) = true ∨
      ∃ t us p, ts = t :: us ∧ e = .path t.spot p ∧ WrittenPath true (t :: us) p := by
  cases h with
  | literal | minus | array => exact .inl rfl
  | truth spot b => cases b <;> exact .inl rfl
  | path h => exact .inr ⟨_, _, _, rfl, rfl, h⟩

theorem argument_positional {v : Term} (hValue : v.IsValue) (hAlone : isNameAlone v.expr = false)
    (hRest : EndsItem rest) (closing : Spot) :
    argument ⟨v.trees ++ rest, closing⟩ = .ok (.positional v, ⟨rest, closing⟩) := by
  have hTerm : (do return .positional (← term) : Parsing Argument) ⟨v.trees ++ rest, closing⟩ =
      .ok (.positional v, ⟨rest, closing⟩) := bind_ok (term_reads hValue hRest closing) _
  rw [argument, rest_bind]
  split
  · exact hTerm
  · next hStart =>
    obtain hValue | ⟨t, us, p, hTrees, hPath, hWritten⟩ := startsValue_of_isValue hValue rest
    · exact absurd hValue hStart
    · rw [hTrees] at hTerm ⊢
      rw [hPath] at hAlone
      obtain ⟨spot, raw, text, behind, hHead, -⟩ | ⟨spot, behind, hHead⟩ := hWritten.head
      · obtain ⟨rfl, rfl⟩ := List.cons_eq_cons.mp hHead
        obtain ⟨first, second, joint, us, rfl⟩ := colons_of_not_alone hWritten (by simpa [isNameAlone] using hAlone)
        exact hTerm
      · obtain ⟨rfl, rfl⟩ := List.cons_eq_cons.mp hHead
        exact hTerm

theorem argument_reads (bound : Nat) :
    ReadsItems (fun ts a => WrittenArgument ts a ∧ a.IsWritable) argument bound := by
  rintro ts a ⟨hWritten, h⟩ - rest hRest closing
  cases hWritten with
  | flag name =>
    have hEquals : startsWithMarks ['='] rest = false := hRest.closed.startsWithMarks (by decide) (by decide) _
    have hColons : startsWithMarks [':', ':'] rest = false := hRest.closed.startsWithMarks (by decide) (by decide) _
    rw [argument, rest_bind, List.cons_append, startsValue_name h, if_neg (by decide)]
    simp only [Ident.tree, List.nil_append, hEquals, hColons]
    rfl
  | named name equals joint v =>
    obtain ⟨hName, hValue⟩ := h
    have hTerm : (do return .named name (← term) : Parsing Argument) ⟨v.trees ++ rest, closing⟩ =
        .ok (.named name v, ⟨rest, closing⟩) := bind_ok (term_reads hValue hRest closing) _
    rw [argument, rest_bind, List.cons_append, startsValue_name hName, if_neg (by decide)]
    exact hTerm
  | positional v => exact argument_positional h.1 h.2 hRest closing

end Arguments

theorem attributeItem_reads (bound : Nat) :
    ReadsItems (fun ts i => WrittenItem ts i ∧ i.IsWritable) attributeItem bound := by
  rintro ts i ⟨hWritten, -, hContent⟩ - rest hRest closing
  cases hWritten with
  | bare name =>
    have hEquals : startsWithMarks "=".toList rest = false := hRest.closed.startsWithMarks (by decide) (by decide) _
    have hName : anyName ⟨name.tree :: rest, closing⟩ = .ok (name, ⟨rest, closing⟩) := rfl
    rw [attributeItem, List.cons_append, List.nil_append, bind_ok hName, acceptMarks_bind, hEquals,
      if_neg (by decide), if_neg (by decide), peek_bind]
    cases hRest with
    | nil => rfl
    | comma spot joint rest => rfl
  | value name equals joint v =>
    have hTerm : (do return ⟨name, .value (← term)⟩ : Parsing AttributeItem) ⟨v.trees ++ rest, closing⟩ =
        .ok (⟨name, .value v⟩, ⟨rest, closing⟩) := bind_ok (term_reads hContent hRest closing) _
    exact hTerm
  | @arguments name opening inner content as h =>
    have hArguments := separatedToEnd_reads (argument_reads _) (h.and hContent) inner
    have hRead : (do return ⟨name, .arguments (← inside content inner (separatedToEnd argument))⟩ :
        Parsing AttributeItem) ⟨rest, closing⟩ = .ok (⟨name, .arguments as⟩, ⟨rest, closing⟩) :=
      bind_ok (inside_ok hArguments _) _
    exact hRead

section Existence

theorem Term.IsValue.exists_cons {v : Term} (h : v.IsValue) : ∃ t ts, v.trees = t :: ts := by
  obtain ⟨e, trees⟩ := v
  change WrittenValue trees e at h
  cases h <;> exact ⟨_, _, rfl⟩

theorem Argument.IsWritable.exists_written {a : Argument} (h : a.IsWritable) :
    ∃ t ts, WrittenArgument (t :: ts) a := by
  cases a with
  | flag name => exact ⟨_, _, .flag name⟩
  | named name v => exact ⟨_, _, .named name .start false v⟩
  | positional v =>
    obtain ⟨t, ts, hTrees⟩ := h.1.exists_cons
    exact ⟨t, ts, hTrees ▸ .positional v⟩

theorem AttributeItem.IsWritable.exists_written {i : AttributeItem} (h : i.IsWritable) :
    ∃ t ts, WrittenItem (t :: ts) i := by
  obtain ⟨name, content⟩ := i
  cases content with
  | nothing => exact ⟨_, _, .bare name⟩
  | value v => exact ⟨_, _, .value name .start false v⟩
  | arguments as =>
    obtain ⟨content, hContent⟩ := Separated.exists_trees fun a ha => (h.2 a ha).exists_written
    exact ⟨_, _, .arguments name .start .start hContent⟩

end Existence

/-- Items that can be written have an attribute, and what is read from any attribute of theirs are the items. -/
theorem attributeItems_written {items : List AttributeItem} (h : ∀ i ∈ items, i.IsWritable) :
    (∃ trees, Separated WrittenItem trees items) ∧
      ∀ trees, Separated WrittenItem trees items → ∀ spot rooted path closing,
        attributeItems ⟨spot, rooted, path, .list trees closing⟩ = .ok items := by
  constructor
  · exact Separated.exists_trees fun i hi => (h i hi).exists_written
  · intro trees hTrees spot rooted path closing
    have hRead := separatedToEnd_reads (attributeItem_reads _) (hTrees.and h) closing
    simp only [attributeItems, Parsing.run, hRead]

/-! The items of `required, async(loop, min = -5, [1, "a",], crate::Kind::<u8>::all,), type = None,`. -/
namespace Sample

def ident (text : String) : Ident :=
  ⟨.start, false, text⟩

def minusFive : Term where
  expr := .negation .start (.constant .start (.int 5))
  trees := punct "-" ++ [.literal .start ⟨"5", .int 5⟩]

def choices : Term where
  expr := .array .start [.constant .start (.int 1), .constant .start (.text "a")]
  trees := brackets ([.literal .start ⟨"1", .int 1⟩] ++ punct "," ++ textLiteral "a" ++ punct ",")

def everyKind : Term :=
  let trees := word "crate" ++ punct "::" ++ word "Kind" ++ punct "::" ++ punct "<" ++ word "u8" ++ punct ">" ++
    punct "::" ++ word "all"
  ⟨.path .start ⟨false, false, [⟨"crate", []⟩, ⟨"Kind", [some (.path "u8" [])]⟩, ⟨"all", []⟩], trees⟩, trees⟩

def absent : Term :=
  ⟨.path .start ⟨false, false, [⟨"None", []⟩], word "None"⟩, word "None"⟩

def arguments : List Argument :=
  [.flag (ident "loop"), .named (ident "min") minusFive, .positional choices, .positional everyKind]

def items : List AttributeItem :=
  [⟨ident "required", .nothing⟩, ⟨ident "async", .arguments arguments⟩, ⟨ident "type", .value absent⟩]

def trees : List Tree :=
  word "required" ++ punct "," ++
    word "async" ++ parens (word "loop" ++ punct "," ++ word "min" ++ punct "=" ++ minusFive.trees ++ punct "," ++
      choices.trees ++ punct "," ++ everyKind.trees ++ punct ",") ++ punct "," ++
    word "type" ++ punct "=" ++ absent.trees ++ punct ","

theorem minusFive_isValue : minusFive.IsValue :=
  .minus .start false .start ⟨"5", .int 5⟩

theorem choices_isValue : choices.IsValue := by
  have hText : WrittenValue (textLiteral "a") (.constant .start (.text "a")) := .literal .start _
  have hItems := Separated.cons (.literal .start ⟨"1", .int 1⟩) .start false (.cons hText .start false .nil)
  exact .array hItems

theorem everyKind_isValue : everyKind.IsValue := by
  have hCrate : WrittenSegment true (word "crate") ⟨"crate", []⟩ := .name (by decide)
  have hType : WrittenTypeArgument (word "u8") (some (.path "u8" [])) :=
    .path (.names (.last (.name (by decide)))) rfl
  have hKind : WrittenSegment true (word "Kind" ++ punct "::" ++ punct "<" ++ (word "u8" ++ punct ">"))
      ⟨"Kind", [some (.path "u8" [])]⟩ :=
    .generic (by decide) (.last hType .start false)
  have hAll : WrittenSegment true (word "all") ⟨"all", []⟩ := .name (by decide)
  have hSegments := WrittenSegments.cons hCrate .start .start false (.cons hKind .start .start false (.last hAll))
  exact .path (.names hSegments)

theorem absent_isValue : absent.IsValue :=
  .path (.names (.last (.name (by decide))))

theorem items_isWritable : ∀ i ∈ items, i.IsWritable := by
  have hArguments : ∀ a ∈ arguments, a.IsWritable := by
    have hLoop : IsItemName (ident "loop") := by decide
    simp only [arguments, List.forall_mem_cons]
    exact ⟨hLoop, ⟨by decide, minusFive_isValue⟩, ⟨choices_isValue, rfl⟩, ⟨everyKind_isValue, rfl⟩, nofun⟩
  simp only [items, List.forall_mem_cons]
  exact ⟨⟨by decide, trivial⟩, ⟨by decide, hArguments⟩, ⟨by decide, absent_isValue⟩, nofun⟩

theorem trees_written : Separated WrittenItem trees items := by
  have hArguments := Separated.cons (WrittenArgument.flag (ident "loop")) .start false
    (.cons (WrittenArgument.named (ident "min") .start false minusFive) .start false
      (.cons (WrittenArgument.positional choices) .start false
        (.cons (WrittenArgument.positional everyKind) .start false .nil)))
  exact Separated.cons (WrittenItem.bare (ident "required")) .start false
    (.cons (WrittenItem.arguments (ident "async") .start .start hArguments) .start false
      (.cons (WrittenItem.value (ident "type") .start false absent) .start false .nil))

end Sample

theorem attributeItems_written_sample : (∀ i ∈ Sample.items, i.IsWritable) ∧
    Separated WrittenItem Sample.trees Sample.items ∧
    attributeItems ⟨.start, false, ["validate"], .list Sample.trees .start⟩ = .ok Sample.items :=
  ⟨Sample.items_isWritable, Sample.trees_written,
    (attributeItems_written Sample.items_isWritable).2 Sample.trees Sample.trees_written .start false ["validate"]
      .start⟩

end FieldRules.Derive
