import FieldRules.Source.Input

/-!
# Types and paths

What the type of a field looks like: its last name with its arguments, below references and parentheses.
Types of any other form are read to their end, but nothing is kept of them.
-/
set_option autoImplicit false

namespace FieldRules.Source

inductive TypeExpr where
  | reference (inner : TypeExpr)
  /-- A type in delimiters that are not written. -/
  | grouped (inner : TypeExpr)
  | paren (inner : TypeExpr)
  /-- A path by its last name. Arguments that are no types are `none`. -/
  | path (name : String) (arguments : List (Option TypeExpr))
  | other

instance : Inhabited TypeExpr :=
  ⟨.other⟩

structure Segment where
  name : String
  arguments : List (Option TypeExpr)

structure Path where
  /-- Whether it stands behind a type in angle brackets. -/
  qualified : Bool
  rooted : Bool
  segments : List Segment
  trees : List Tree

namespace Path

def name? (p : Path) : Option String :=
  match p.qualified, p.rooted, p.segments with
  | false, false, [s] => if s.arguments.isEmpty then some s.name else none
  | _, _, _ => none

def last? (p : Path) : Option Segment :=
  p.segments.getLast?

/-- The path without blanks, as functions are known by name. -/
def spelling (p : Path) : String :=
  String.join ((words p.trees).map fun w => String.ofList (w.toList.filter (· != ' ')))

end Path

open Parsing

def pathKeywords : List String :=
  ["super", "self", "Self", "crate"]

def isPathName : Tree → Bool
  | .name _ raw text => raw || !keywords.contains text || pathKeywords.contains text
  | _ => false

namespace Parsing

def atLifetime : Parsing Bool := do
  match (← peek) with
  | some (.lifetime _ _) => return true
  | _ => return false

def isLiteralStart : List Tree → Bool
  | .literal _ _ :: _ => true
  | .name _ false text :: _ => text == "true" || text == "false"
  | .mark _ '-' _ :: .literal _ _ :: _ => true
  | _ => false

def skipLiteral : Parsing Unit := do
  if (← acceptMarks "-") then advance 1 else advance 1

def acceptLifetime : Parsing Bool := do
  if (← atLifetime) then do
    advance 1
    return true
  else return false

def pathName : Parsing String := do
  match (← peek) with
  | some (.name _ raw text) =>
    if !raw && pathKeywords.contains text then do
      advance 1
      return text
    else name
  | _ => name

end Parsing

def startsBound : Tree → Bool
  | .lifetime _ _ => true
  | t =>
    isPathName t || t.isMark '?' || t.isMark ':' || t.isMark '<' || t.isKeyword "for" || t.isGroup .paren

mutual

/-- A type. Only where `plus` is allowed may it be a sum of bounds. -/
def typeExpr (fuel : Nat) (plus : Bool) : Parsing TypeExpr :=
  match fuel with
  | 0 => expected "expected a type"
  | fuel + 1 => do
    match (← peek) with
    | some (.group _ closing .invisible content) => do
      advance 1
      return .grouped (← inside content closing (typeExpr fuel true))
    | some (.group _ closing .paren content) => do
      advance 1
      inside content closing (parenType fuel)
    | some (.group _ closing .bracket content) => do
      advance 1
      inside content closing (sequenceType fuel)
    | some (.lifetime _ _) => do
      bounds fuel plus
      return .other
    | some (.mark _ c _) =>
      if c == '*' then pointerType fuel
      else if c == '&' then do
        advance 1
        let _ ← acceptLifetime
        let _ ← acceptKeyword "mut"
        return .reference (← typeExpr fuel false)
      else if c == '!' then do
        advance 1
        return .other
      else pathType fuel plus
    | some t => namedType fuel plus t
    | none => expected "expected a type"

def namedType (fuel : Nat) (plus : Bool) (t : Tree) : Parsing TypeExpr :=
  match fuel with
  | 0 => expected "expected a type"
  | fuel + 1 => do
    if t.isKeyword "_" then do
      advance 1
      return .other
    else if t.isKeyword "dyn" || t.isKeyword "impl" then do
      advance 1
      bounds fuel plus
      return .other
    else if t.isKeyword "for" then do
      lifetimes fuel
      if (← atFunction) then functionType fuel
      else do
        bounds fuel plus
        return .other
    else if (← atFunction) then functionType fuel
    else pathType fuel plus

/-- What stands in parentheses: nothing or several types are a tuple. -/
def parenType (fuel : Nat) : Parsing TypeExpr :=
  match fuel with
  | 0 => expected "expected a type"
  | fuel + 1 => do
    if (← isDone) then return .other
    else do
      let first ← typeExpr fuel true
      if (← acceptMarks ",") then do
        let _ ← separatedToEnd (typeExpr fuel true)
        return .other
      else return .paren first

def sequenceType (fuel : Nat) : Parsing TypeExpr :=
  match fuel with
  | 0 => expected "expected a type"
  | fuel + 1 => do
    let _ ← typeExpr fuel true
    if (← acceptMarks ";") then do
      if (← isDone) then expected "expected an expression"
      else do
        advance (← rest).length
        return .other
    else return .other

def pointerType (fuel : Nat) : Parsing TypeExpr :=
  match fuel with
  | 0 => expected "expected a type"
  | fuel + 1 => do
    expectMarks "*"
    if (← acceptKeyword "const") then pure () else expectKeyword "mut"
    let _ ← typeExpr fuel false
    return .other

def atFunction : Parsing Bool := do
  return (← peek).any fun t => t.isKeyword "fn" || t.isKeyword "unsafe" || t.isKeyword "extern"

def functionType (fuel : Nat) : Parsing TypeExpr :=
  match fuel with
  | 0 => expected "expected a type"
  | fuel + 1 => do
    let _ ← acceptKeyword "unsafe"
    if (← acceptKeyword "extern") then do
      if isLiteralStart (← rest) then skipLiteral
    expectKeyword "fn"
    let (content, closing) ← group .paren "expected parentheses"
    let _ ← inside content closing (separatedToEnd (functionArgument fuel))
    result fuel
    return .other

def functionArgument (fuel : Nat) : Parsing Unit :=
  match fuel with
  | 0 => expected "expected a type"
  | fuel + 1 => do
    match (← rest) with
    | .name _ _ _ :: .mark _ ':' false :: _ => do
      advance 2
      let _ ← typeExpr fuel true
    | _ => do
      let _ ← typeExpr fuel true

def result (fuel : Nat) : Parsing Unit :=
  match fuel with
  | 0 => expected "expected a type"
  | fuel + 1 => do
    if (← acceptMarks "->") then do
      let _ ← typeExpr fuel false

def pathType (fuel : Nat) (plus : Bool) : Parsing TypeExpr :=
  match fuel with
  | 0 => expected "expected a type"
  | fuel + 1 => do
    let p ← path fuel false
    if (← atMarks "!") then do
      if (← atMarks "!=") then return .other
      else do
        advance 2
        return .other
    else do
      if plus && (← atMarks "+") then do
        advance 1
        bounds fuel plus
        return .other
      else
        match p.last? with
        | some s => return .path s.name s.arguments
        | none => return .other

/-- Lifetimes that a bound is for all of. -/
def lifetimes (fuel : Nat) : Parsing Unit :=
  match fuel with
  | 0 => expected "expected a type"
  | fuel + 1 => do
    if (← acceptKeyword "for") then do
      expectMarks "<"
      let _ ← arguments fuel

def bounds (fuel : Nat) (plus : Bool) : Parsing Unit :=
  match fuel with
  | 0 => expected "expected a bound"
  | fuel + 1 => do
    bound fuel
    if plus && (← atMarks "+") then do
      advance 1
      if (← peek).any startsBound then bounds fuel plus

def bound (fuel : Nat) : Parsing Unit :=
  match fuel with
  | 0 => expected "expected a bound"
  | fuel + 1 => do
    match (← peek) with
    | some (.lifetime _ _) => advance 1
    | some (.group _ closing .paren content) => do
      advance 1
      inside content closing (bound fuel)
    | _ => do
      let _ ← acceptMarks "?"
      lifetimes fuel
      let _ ← path fuel false
      match (← peek) with
      | some (.group _ closing .paren content) => do
        advance 1
        let _ ← inside content closing (separatedToEnd (typeExpr fuel true))
        result fuel
      | _ => pure ()

/-- A path. In an expression arguments stand behind a double colon only. -/
def path (fuel : Nat) (inExpression : Bool) : Parsing Path :=
  match fuel with
  | 0 => expected "expected identifier"
  | fuel + 1 => do
    if (← acceptMarks "<") then do
      let _ ← typeExpr fuel true
      let behind : List Segment × List Tree × Bool ←
        if (← acceptKeyword "as") then do
          let p ← path fuel false
          pure (p.segments, p.trees, p.rooted)
        else pure ([], [], true)
      expectMarks ">"
      let colons := (← rest).take 2
      expectMarks "::"
      let (segments, trees) ← taken (segments fuel inExpression)
      return ⟨true, behind.2.2, behind.1 ++ segments, behind.2.1 ++ colons ++ trees⟩
    else do
      let ((rooted, segments), trees) ← taken (do
        let rooted ← acceptMarks "::"
        let segments ← segments fuel inExpression
        return (rooted, segments))
      return ⟨false, rooted, segments, trees⟩

/-- The parts of a path. A double colon before parentheses does not belong to it. -/
def segments (fuel : Nat) (inExpression : Bool) : Parsing (List Segment) :=
  match fuel with
  | 0 => expected "expected identifier"
  | fuel + 1 => do
    let s ← segment fuel inExpression
    if (← atMarks "::") then do
      if ((← rest).drop 2).head?.any (Tree.isGroup .paren) then return [s]
      else do
        advance 2
        return s :: (← segments fuel inExpression)
    else return [s]

def segment (fuel : Nat) (inExpression : Bool) : Parsing Segment :=
  match fuel with
  | 0 => expected "expected identifier"
  | fuel + 1 => do
    let name ← pathName
    if pathKeywords.contains name && name != "Self" then return ⟨name, []⟩
    else do
      if (← atMarks "::") && ((← rest).drop 2).head?.any (Tree.isMark '<') then do
        advance 3
        return ⟨name, ← arguments fuel⟩
      else do
        if !inExpression && (← atMarks "<") && !(← atMarks "<=") then do
          advance 1
          return ⟨name, ← arguments fuel⟩
        else return ⟨name, []⟩

def arguments (fuel : Nat) : Parsing (List (Option TypeExpr)) :=
  match fuel with
  | 0 => expected "expected a type"
  | fuel + 1 => do
    if (← acceptMarks ">") then return []
    else do
      let a ← argument fuel
      if (← acceptMarks ">") then return [a]
      else do
        expectMarks ","
        return a :: (← arguments fuel)

/-- An argument: a type, or a lifetime, constant or constraint. -/
def argument (fuel : Nat) : Parsing (Option TypeExpr) :=
  match fuel with
  | 0 => expected "expected a type"
  | fuel + 1 => do
    let trees ← rest
    if (← atLifetime) && !(trees.drop 1).head?.any (Tree.isMark '+') then do
      advance 1
      return none
    else if isLiteralStart trees then do
      skipLiteral
      return none
    else do
      if (← atGroup .brace) then do
        advance 1
        return none
      else do
        let t ← typeExpr fuel true
        if (← acceptMarks "=") then do
          if isLiteralStart (← rest) then skipLiteral
          else do
            if (← atGroup .brace) then advance 1
            else do
              let _ ← typeExpr fuel true
          return none
        else do
          if (← acceptMarks ":") then do
            bounds fuel true
            return none
          else return some t

end

def fuelFor (trees : List Tree) : Nat :=
  16 * sizeOfTrees trees + 16

def TypeExpr.ofTrees (trees : List Tree) (closing : Spot) : Except Diagnostic TypeExpr :=
  (typeExpr (fuelFor trees) true).run trees closing

end FieldRules.Source
