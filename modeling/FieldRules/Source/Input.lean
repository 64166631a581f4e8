import FieldRules.Source.Token

/-!
# Reading trees

A reader takes trees from the front of its input, which knows the place where it ends, and may stop with a
diagnostic.
-/
set_option autoImplicit false

namespace FieldRules.Source

structure Diagnostic where
  spot : Spot
  message : String
  deriving DecidableEq

structure Input where
  trees : List Tree
  /-- The place behind the last tree. -/
  closing : Spot

abbrev Parsing := StateT Input (Except Diagnostic)

namespace Parsing

def rest : Parsing (List Tree) :=
  fun s => .ok (s.trees, s)

def peek : Parsing (Option Tree) :=
  fun s => .ok (s.trees.head?, s)

def advance (n : Nat) : Parsing Unit :=
  fun s => .ok ((), { s with trees := s.trees.drop n })

def spot : Parsing Spot :=
  fun s => .ok ((s.trees.head?.map Tree.spot).getD s.closing, s)

/-- Stops at the next tree, or at the end, which the message then says. -/
def expected {α : Type} (message : String) : Parsing α :=
  fun s =>
    match s.trees.head? with
    | some t => .error ⟨t.spot, message⟩
    | none => .error ⟨s.closing, "unexpected end of input, " ++ message⟩

def isDone : Parsing Bool :=
  fun s => .ok (s.trees.isEmpty, s)

def taken {α : Type} (p : Parsing α) : Parsing (α × List Tree) :=
  fun s =>
    match p s with
    | .ok (a, t) => .ok ((a, s.trees.take (s.trees.length - t.trees.length)), t)
    | .error e => .error e

def inside {α : Type} (content : List Tree) (closing : Spot) (p : Parsing α) : Parsing α :=
  fun s =>
    match p ⟨content, closing⟩ with
    | .error e => .error e
    | .ok (a, left) =>
      match left.trees with
      | [] => .ok (a, s)
      | t :: _ => .error ⟨t.spot, "unexpected token"⟩

end Parsing

/-- Whether trees start with the marks of an operator, each joined to the next. -/
def startsWithMarks : List Char → List Tree → Bool
  | [], _ => true
  | [c], .mark _ d _ :: _ => c == d
  | c :: cs, .mark _ d joint :: rest => c == d && joint && startsWithMarks cs rest
  | _, _ => false

/-- The keywords, which are no names unless they are raw. -/
def keywords : List String :=
  ["_", "abstract", "as", "async", "await", "become", "box", "break", "const", "continue", "crate", "do",
    "dyn", "else", "enum", "extern", "false", "final", "fn", "for", "if", "impl", "in", "let", "loop",
    "macro", "match", "mod", "move", "mut", "override", "priv", "pub", "ref", "return", "Self", "self",
    "static", "struct", "super", "trait", "true", "try", "type", "typeof", "unsafe", "unsized", "use",
    "virtual", "where", "while", "yield"]

namespace Tree

def isKeyword (word : String) : Tree → Bool
  | name _ raw text => !raw && text == word
  | _ => false

def isGroup (d : Delimiter) : Tree → Bool
  | group _ _ e _ => d == e
  | _ => false

end Tree

namespace Parsing

def atMarks (op : String) : Parsing Bool := do
  return startsWithMarks op.toList (← rest)

def atKeyword (word : String) : Parsing Bool := do
  return (← peek).any (Tree.isKeyword word)

def atGroup (d : Delimiter) : Parsing Bool := do
  return (← peek).any (Tree.isGroup d)

def acceptMarks (op : String) : Parsing Bool := do
  if (← atMarks op) then do
    advance op.length
    return true
  else return false

def acceptKeyword (word : String) : Parsing Bool := do
  if (← atKeyword word) then do
    advance 1
    return true
  else return false

def expectMarks (op : String) : Parsing Unit := do
  if (← acceptMarks op) then pure () else expected ("expected \x60" ++ op ++ "\x60")

def expectKeyword (word : String) : Parsing Unit := do
  if (← acceptKeyword word) then pure () else expected ("expected \x60" ++ word ++ "\x60")

def spelledName (raw : Bool) (text : String) : String :=
  if raw then "r#" ++ text else text

def name : Parsing String := do
  match (← peek) with
  | some (.name _ raw text) =>
    if raw || !keywords.contains text then do
      advance 1
      return spelledName raw text
    else expected ("expected identifier, found keyword \x60" ++ text ++ "\x60")
  | _ => expected "expected identifier"

/-- The content of a group that has to be next, and the place of its end. -/
def group (d : Delimiter) (message : String) : Parsing (List Tree × Spot) := do
  match (← peek) with
  | some (.group _ closing e content) =>
    if d = e then do
      advance 1
      return (content, closing)
    else expected message
  | _ => expected message

/-- Items separated by commas up to the end of the input; a last comma may follow. Reads at most as many
items as there is fuel. -/
def separated {α : Type} (fuel : Nat) (item : Parsing α) : Parsing (List α) :=
  match fuel with
  | 0 => return []
  | fuel + 1 => do
    if (← isDone) then return []
    else do
      let a ← item
      if (← isDone) then return [a]
      else do
        expectMarks ","
        return a :: (← separated fuel item)

def separatedToEnd {α : Type} (item : Parsing α) : Parsing (List α) := do
  separated ((← rest).length + 1) item

def run {α : Type} (p : Parsing α) (trees : List Tree) (closing : Spot) : Except Diagnostic α :=
  match p ⟨trees, closing⟩ with
  | .error e => .error e
  | .ok (a, left) =>
    match left.trees with
    | [] => .ok a
    | t :: _ => .error ⟨t.spot, "unexpected token"⟩

end Parsing
end FieldRules.Source
