import FieldRules.Source.Type

/-!
# Expressions

Expressions as they stand behind the names of attribute arguments. Literals, negations, arrays and paths are
kept; all other expressions are only read to their end.
-/
set_option autoImplicit false

namespace FieldRules.Source

inductive Constant where
  | text (s : String)
  | int (n : Nat)
  | float (x : Double)
  | bool (b : Bool)
  /-- A literal of another kind, such as a character. -/
  | other
  deriving DecidableEq

def LiteralValue.constant : LiteralValue → Constant
  | text s => .text s
  | int n => .int n
  | float x => .float x
  | other => .other

inductive Expr where
  | constant (spot : Spot) (c : Constant)
  | negation (spot : Spot) (inner : Expr)
  | array (spot : Spot) (items : List Expr)
  | path (spot : Spot) (p : Path)
  /-- An expression in delimiters that are not written. -/
  | grouped (spot : Spot) (inner : Expr)
  | other (spot : Spot)

instance : Inhabited Expr :=
  ⟨.other .start⟩

def Expr.spot : Expr → Spot
  | constant spot _ => spot
  | negation spot _ => spot
  | array spot _ => spot
  | path spot _ => spot
  | grouped spot _ => spot
  | other spot => spot

open Parsing

/-- The binary operators, ranges apart, each before the ones that it starts with. -/
def operators : List String :=
  ["<<=", ">>=", "&&", "||", "<<", ">>", "+=", "-=", "*=", "/=", "%=", "^=", "&=", "|=", "==", "!=", "<=",
    ">=", "+", "-", "*", "/", "%", "^", "&", "|", "<", ">", "="]

def rangeOperators : List String :=
  ["..=", ".."]

/-- The operator that trees start with. An arrow is none. -/
def operator? (trees : List Tree) : Option String :=
  if startsWithMarks ['=', '>'] trees then none
  else operators.find? fun op => startsWithMarks op.toList trees

def rangeOperator? (trees : List Tree) : Option String :=
  rangeOperators.find? fun op => startsWithMarks op.toList trees

/-- Whether an operand may be left out here. -/
def endsOperand (braces : Bool) (trees : List Tree) : Bool :=
  match trees with
  | [] => true
  | t :: _ => t.isMark ',' || t.isMark ';' || startsWithMarks ['=', '>'] trees || (!braces && t.isGroup .brace)

/-- The trees behind a pattern, which ends before a lone equals sign or before a keyword. -/
def afterPattern (stop : Tree → Bool) (trees : List Tree) : List Tree :=
  trees.dropWhile fun t => !stop t

namespace Parsing

def block : Parsing Unit := do
  let _ ← group .brace "expected curly braces"

def atAnyKeyword (words : List String) : Parsing Bool := do
  return (← peek).any fun t => words.any fun w => t.isKeyword w

def skipPattern (stop : Tree → Bool) : Parsing Unit := do
  let trees ← rest
  advance (trees.length - (afterPattern stop trees).length)

end Parsing

mutual

/-- An expression. Where `braces` are not allowed, curly braces do not belong to it. -/
def expr (fuel : Nat) (braces : Bool) : Parsing Expr :=
  match fuel with
  | 0 => expected "expected an expression"
  | fuel + 1 => do
    let start ← spot
    let first ← unary fuel braces
    operations fuel braces start first

def operations (fuel : Nat) (braces : Bool) (start : Spot) (first : Expr) : Parsing Expr :=
  match fuel with
  | 0 => return first
  | fuel + 1 => do
    let trees ← rest
    match rangeOperator? trees, operator? trees with
    | some op, _ => do
      advance op.length
      if endsOperand braces (← rest) then operations fuel braces start (.other start)
      else do
        let _ ← unary fuel braces
        operations fuel braces start (.other start)
    | none, some op => do
      advance op.length
      let _ ← unary fuel braces
      operations fuel braces start (.other start)
    | none, none => do
      if (← acceptKeyword "as") then do
        let _ ← typeExpr fuel false
        operations fuel braces start (.other start)
      else return first

def unary (fuel : Nat) (braces : Bool) : Parsing Expr :=
  match fuel with
  | 0 => expected "expected an expression"
  | fuel + 1 => do
    let start ← spot
    if (← acceptMarks "-") then return .negation start (← unary fuel braces)
    else do
      if (← acceptMarks "&") then do
        let _ ← acceptKeyword "mut"
        let _ ← unary fuel braces
        return .other start
      else do
        if (← acceptMarks "*") then do
          let _ ← unary fuel braces
          return .other start
        else do
          if (← acceptMarks "!") then do
            let _ ← unary fuel braces
            return .other start
          else do
            let a ← atom fuel braces
            trailers fuel start a

/-- Calls, fields, methods, indexes and question marks behind an expression. -/
def trailers (fuel : Nat) (start : Spot) (base : Expr) : Parsing Expr :=
  match fuel with
  | 0 => return base
  | fuel + 1 => do
    match (← peek) with
    | some (.group _ closing .paren content) => do
      advance 1
      let _ ← inside content closing (separatedToEnd (expr fuel true))
      trailers fuel start (.other start)
    | some (.group _ closing .bracket content) => do
      advance 1
      let _ ← inside content closing (expr fuel true)
      trailers fuel start (.other start)
    | some (.mark _ '?' _) => do
      advance 1
      trailers fuel start (.other start)
    | some (.mark _ '.' _) => do
      if (← atMarks "..") then return base
      else do
        advance 1
        member fuel
        trailers fuel start (.other start)
    | _ => return base

def member (fuel : Nat) : Parsing Unit :=
  match fuel with
  | 0 => expected "expected identifier"
  | fuel + 1 => do
    if (← acceptKeyword "await") then pure ()
    else do
      match (← peek) with
      | some (.literal _ _) => advance 1
      | _ => do
        let _ ← name
        if (← acceptMarks "::") then do
          expectMarks "<"
          let _ ← arguments fuel

/-- A constant, a path, or a form that starts with a delimiter or keyword. -/
def atom (fuel : Nat) (braces : Bool) : Parsing Expr :=
  match fuel with
  | 0 => expected "expected an expression"
  | fuel + 1 => do
    let start ← spot
    match (← peek) with
    | some (.group _ closing .invisible content) => do
      advance 1
      return .grouped start (← inside content closing (expr fuel true))
    | some (.literal _ l) => do
      advance 1
      return .constant start l.value.constant
    | some (.group _ closing .paren content) => do
      advance 1
      let _ ← inside content closing (separatedToEnd (expr fuel true))
      return .other start
    | some (.group _ closing .bracket content) => do
      advance 1
      inside content closing (arrayItems fuel start)
    | some (.group _ _ .brace _) => do
      advance 1
      return .other start
    | some (.lifetime _ _) => do
      advance 1
      expectMarks ":"
      keywordForm fuel
      return .other start
    | some t => do
      if t.isKeyword "true" then do
        advance 1
        return .constant start (.bool true)
      else if t.isKeyword "false" then do
        advance 1
        return .constant start (.bool false)
      else if t.isMark '|' then do
        closure fuel
        return .other start
      else if startsWithMarks ['.', '.'] (← rest) then do
        range fuel braces
        return .other start
      else if isPathName t || t.isMark '<' || startsWithMarks [':', ':'] (← rest) then
        pathForm fuel braces start
      else do
        keywordForm fuel
        return .other start
    | none => expected "expected an expression"

def range (fuel : Nat) (braces : Bool) : Parsing Unit :=
  match fuel with
  | 0 => expected "expected an expression"
  | fuel + 1 => do
    if (← acceptMarks "..=") then do
      let _ ← unary fuel braces
    else do
      expectMarks ".."
      if endsOperand braces (← rest) then pure ()
      else do
        let _ ← unary fuel braces

def arrayItems (fuel : Nat) (start : Spot) : Parsing Expr :=
  match fuel with
  | 0 => expected "expected an expression"
  | fuel + 1 => do
    if (← isDone) then return .array start []
    else do
      let first ← expr fuel true
      if (← acceptMarks ";") then do
        let _ ← expr fuel true
        return .other start
      else do
        if (← isDone) then return .array start [first]
        else do
          if (← acceptMarks ",") then return .array start (first :: (← separatedToEnd (expr fuel true)))
          else expected "expected \x60,\x60 or \x60;\x60"

def pathForm (fuel : Nat) (braces : Bool) (start : Spot) : Parsing Expr :=
  match fuel with
  | 0 => expected "expected an expression"
  | fuel + 1 => do
    let p ← path fuel true
    if (← atMarks "!") && !(← atMarks "!=") then do
      advance 2
      return .other start
    else do
      if braces && (← atGroup .brace) then do
        advance 1
        return .other start
      else return .path start p

def closure (fuel : Nat) : Parsing Unit :=
  match fuel with
  | 0 => expected "expected an expression"
  | fuel + 1 => do
    expectMarks "|"
    skipPattern (Tree.isMark '|')
    expectMarks "|"
    if (← acceptMarks "->") then do
      let _ ← typeExpr fuel false
      block
    else do
      let _ ← expr fuel true

def condition (fuel : Nat) : Parsing Unit :=
  match fuel with
  | 0 => expected "expected an expression"
  | fuel + 1 => do
    if (← acceptKeyword "let") then do
      skipPattern (Tree.isMark '=')
      expectMarks "="
    let _ ← expr fuel false

def conditional (fuel : Nat) : Parsing Unit :=
  match fuel with
  | 0 => expected "expected an expression"
  | fuel + 1 => do
    condition fuel
    block
    if (← acceptKeyword "else") then do
      if (← acceptKeyword "if") then conditional fuel else block

def keywordForm (fuel : Nat) : Parsing Unit :=
  match fuel with
  | 0 => expected "expected an expression"
  | fuel + 1 => do
    if (← acceptKeyword "if") then conditional fuel
    else do
      if (← acceptKeyword "while") then do
        condition fuel
        block
      else do
        if (← acceptKeyword "match") then do
          let _ ← expr fuel false
          block
        else do
          if (← acceptKeyword "for") then do
            skipPattern (Tree.isKeyword "in")
            expectKeyword "in"
            let _ ← expr fuel false
            block
          else jumpForm fuel

/-- A block behind its keyword, a closure behind its, or the end of a block with its value. -/
def jumpForm (fuel : Nat) : Parsing Unit :=
  match fuel with
  | 0 => expected "expected an expression"
  | fuel + 1 => do
    let trees ← rest
    let next := (trees.drop 1).head?
    let behind := (trees.drop 2).head?
    if (← atAnyKeyword ["loop", "unsafe", "const", "async", "try"]) && next.any (Tree.isGroup .brace) then
      advance 2
    else if (← atKeyword "async") && next.any (Tree.isKeyword "move") && behind.any (Tree.isGroup .brace) then
      advance 3
    else do
      if (← atAnyKeyword ["move", "static", "async"]) && next.any (fun t => t.isMark '|' || t.isKeyword "move") then do
        advance 1
        let _ ← acceptKeyword "move"
        closure fuel
      else do
        if (← atAnyKeyword ["return", "break", "continue", "yield"]) then do
          advance 1
          let _ ← acceptLifetime
          if endsOperand true (← rest) then pure ()
          else do
            let _ ← expr fuel true
        else do
          if (← acceptKeyword "_") then pure () else expected "expected an expression"

end

def expression : Parsing Expr := do
  expr (fuelFor (← rest)) true

def Expr.ofTrees (trees : List Tree) (closing : Spot) : Except Diagnostic Expr :=
  expression.run trees closing

end FieldRules.Source
