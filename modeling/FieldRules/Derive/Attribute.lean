import FieldRules.Source.Item

/-!
# Attributes of rules

The list in an attribute: items separated by commas, each a name alone, a name with a value, or a name with
arguments in parentheses. An argument is a flag, a value under a name, or a value alone.
-/
set_option autoImplicit false

namespace FieldRules.Derive

open Source Source.Parsing

structure Term where
  expr : Expr
  trees : List Tree

inductive Argument where
  | flag (name : Ident)
  | named (name : Ident) (value : Term)
  | positional (value : Term)

inductive ItemContent where
  | nothing
  | value (value : Term)
  | arguments (arguments : List Argument)

structure AttributeItem where
  name : Ident
  content : ItemContent

namespace AttributeItem

def spot (i : AttributeItem) : Spot :=
  i.name.spot

def label (i : AttributeItem) : String :=
  i.name.text

def arguments (i : AttributeItem) : List Argument :=
  match i.content with
  | .arguments arguments => arguments
  | _ => []

def value? (i : AttributeItem) : Option Term :=
  match i.content with
  | .value value => some value
  | _ => none

end AttributeItem

def anyName : Parsing Ident := do
  match (← peek) with
  | some (.name spot raw text) => do
    advance 1
    return ⟨spot, raw, text⟩
  | _ => expected "expected ident"

def term : Parsing Term := do
  let (expr, trees) ← taken expression
  return ⟨expr, trees⟩

/-- Whether trees start with what is always a value: a literal, a minus or a bracket. -/
def startsValue (trees : List Tree) : Bool :=
  isLiteralStart trees ||
    match trees with
    | t :: _ => t.isMark '-' || t.isGroup .bracket
    | [] => false

def argument : Parsing Argument := do
  let trees ← rest
  if startsValue trees then return .positional (← term)
  else
    match trees with
    | .name spot raw text :: behind =>
      if startsWithMarks ['='] behind then do
        advance 2
        return .named ⟨spot, raw, text⟩ (← term)
      else if startsWithMarks [':', ':'] behind then return .positional (← term)
      else do
        advance 1
        return .flag ⟨spot, raw, text⟩
    | _ => return .positional (← term)

def attributeItem : Parsing AttributeItem := do
  let name ← anyName
  if (← acceptMarks "=") then return ⟨name, .value (← term)⟩
  else
    match (← peek) with
    | some (.group _ closing .paren content) => do
      advance 1
      return ⟨name, .arguments (← inside content closing (separatedToEnd argument))⟩
    | _ => return ⟨name, .nothing⟩

def attributeItems (a : Attribute) : Except Diagnostic (List AttributeItem) :=
  match a.body with
  | .list content closing => (separatedToEnd attributeItem).run content closing
  | .nothing =>
    .error ⟨a.spot, s!"expected attribute arguments in parentheses: #[{a.pathText}(...)]"⟩
  | .value equals => .error ⟨equals, s!"expected parentheses: #[{a.pathText}(...)]"⟩

end FieldRules.Derive
