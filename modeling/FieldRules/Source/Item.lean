import FieldRules.Source.Expression
import FieldRules.Source.Token.Reader

/-!
# Items

Structures, enumerations and unions with their attributes and generic parameters, and the named fields of a
structure.
-/
set_option autoImplicit false

namespace FieldRules.Source

structure Ident where
  spot : Spot
  raw : Bool
  text : String
  deriving DecidableEq

namespace Ident

def spelling (i : Ident) : String :=
  Parsing.spelledName i.raw i.text

def tree (i : Ident) : Tree :=
  .name i.spot i.raw i.text

end Ident

inductive AttributeBody where
  | nothing
  | list (content : List Tree) (closing : Spot)
  | value (equals : Spot)

structure Attribute where
  spot : Spot
  rooted : Bool
  path : List String
  body : AttributeBody

namespace Attribute

def isNamed (a : Attribute) (name : String) : Bool :=
  !a.rooted && a.path == [name]

def pathText (a : Attribute) : String :=
  (if a.rooted then "::" else "") ++ "::".intercalate a.path

end Attribute

inductive ParameterKind where
  | lifetime
  | type
  | constant
  deriving DecidableEq

/-- A generic parameter: its attributes, its name, and the whole of it without its default. -/
structure Parameter where
  kind : ParameterKind
  attributes : List Tree
  name : Tree
  declared : List Tree
  /-- Whether a comma follows. -/
  comma : Bool

structure Generics where
  parameters : List Parameter
  /-- The clause with the conditions on the parameters, empty if there is no condition. -/
  conditions : List Tree

structure Field where
  attributes : List Attribute
  ident : Ident
  type : TypeExpr

inductive ItemBody where
  | named (fields : List Field)
  /-- A structure whose fields have no names. -/
  | unnamed
  /-- An enumeration or union. -/
  | other

structure Item where
  attributes : List Attribute
  ident : Ident
  generics : Generics
  body : ItemBody

open Parsing

namespace Parsing

def ident : Parsing Ident := do
  let start ← spot
  match (← peek) with
  | some (.name _ raw text) => do
    let _ ← name
    return ⟨start, raw, text⟩
  | _ => do
    let _ ← name
    return ⟨start, false, ""⟩

def plainPath (fuel : Nat) : Parsing (List String) :=
  match fuel with
  | 0 => expected "expected identifier"
  | fuel + 1 => do
    let first ← pathName
    if (← acceptMarks "::") then return first :: (← plainPath fuel)
    else return [first]

def attributeBody : Parsing AttributeBody := do
  match (← peek) with
  | some (.group _ closing _ content) => do
    advance 1
    return .list content closing
  | some (.mark spot '=' _) => do
    advance 1
    let _ ← expression
    return .value spot
  | _ => return .nothing

def attributeContent : Parsing Attribute := do
  let rooted ← acceptMarks "::"
  let start ← spot
  let path ← plainPath (← rest).length
  return ⟨start, rooted, path, ← attributeBody⟩

def oneAttribute : Parsing Attribute := do
  expectMarks "#"
  let (content, closing) ← group .bracket "expected square brackets"
  inside content closing attributeContent

def attributes (fuel : Nat) : Parsing (List Attribute) :=
  match fuel with
  | 0 => return []
  | fuel + 1 => do
    if (← atMarks "#") then do
      let a ← oneAttribute
      return a :: (← attributes fuel)
    else return []

def allAttributes : Parsing (List Attribute) := do
  attributes (← rest).length

/-- What restricts a visibility: a place, or a path to one. -/
def isRestriction : List Tree → Bool
  | [t] => t.isKeyword "crate" || t.isKeyword "self" || t.isKeyword "super"
  | t :: _ :: _ => t.isKeyword "in"
  | [] => false

def visibility : Parsing Unit := do
  if (← acceptKeyword "pub") then do
    match (← peek) with
    | some (.group _ _ .paren content) => if isRestriction content then advance 1
    | _ => pure ()

/-- Bounds behind a colon; there may be none before the end of a parameter. -/
def optionalBounds : Parsing (List Tree) := do
  let start ← rest
  if (← atMarks ":") then do
    advance 1
    if (← atMarks ",") then return []
    else do
      if (← atMarks ">") then return []
      else do
        if (← atMarks "=") then return []
        else do
          let ((), trees) ← taken (bounds (fuelFor start) true)
          return start.take 1 ++ trees
  else return []

def parameterDefault : Parsing Unit := do
  if (← acceptMarks "=") then do
    let _ ← argument (fuelFor (← rest))

def parameter : Parsing Parameter := do
  let (_, attributes) ← taken allAttributes
  match (← rest) with
  | .lifetime spot text :: _ => do
    advance 1
    let bounds ← optionalBounds
    let name : Tree := .lifetime spot text
    return ⟨.lifetime, attributes, name, name :: bounds, false⟩
  | t :: _ => do
    if t.isKeyword "const" then do
      advance 1
      let i ← ident
      let (_, type) ← taken (do
        expectMarks ":"
        typeExpr (fuelFor (← rest)) true)
      parameterDefault
      return ⟨.constant, attributes, i.tree, t :: i.tree :: type, false⟩
    else do
      let i ← ident
      let bounds ← optionalBounds
      parameterDefault
      return ⟨.type, attributes, i.tree, i.tree :: bounds, false⟩
  | [] => expected "expected a parameter"

def parameters (fuel : Nat) : Parsing (List Parameter) :=
  match fuel with
  | 0 => expected "expected a parameter"
  | fuel + 1 => do
    if (← acceptMarks ">") then return []
    else do
      let p ← parameter
      if (← acceptMarks ">") then return [p]
      else do
        expectMarks ","
        return { p with comma := true } :: (← parameters fuel)

def generics : Parsing (List Parameter) := do
  if (← acceptMarks "<") then parameters ((← rest).length + 1) else return []

def endsConditions : Option Tree → Bool
  | none => true
  | some t => t.isGroup .brace || t.isMark ',' || t.isMark ';' || t.isMark '='

def conditionList (fuel : Nat) : Parsing Unit :=
  match fuel with
  | 0 => pure ()
  | fuel + 1 => do
    if endsConditions (← peek) then pure ()
    else do
      let trees := fuelFor (← rest)
      if (← acceptLifetime) then pure ()
      else do
        lifetimes trees
        let _ ← typeExpr trees false
      let _ ← optionalBounds
      if (← acceptMarks ",") then conditionList fuel

def conditions : Parsing (List Tree) := do
  if (← atKeyword "where") then do
    let ((), trees) ← taken (do
      advance 1
      conditionList (← rest).length)
    return if trees.length = 1 then [] else trees
  else return []

def field : Parsing Field := do
  let attributes ← allAttributes
  visibility
  let i ← ident
  expectMarks ":"
  let type ← typeExpr (fuelFor (← rest)) true
  return ⟨attributes, i, type⟩

def unnamedField : Parsing Unit := do
  let _ ← allAttributes
  visibility
  let _ ← typeExpr (fuelFor (← rest)) true

def fields (content : List Tree) (closing : Spot) : Parsing (List Field) :=
  inside content closing (separatedToEnd field)

/-- A case of an enumeration, with the fields and the number that it may have. -/
def variant : Parsing Unit := do
  let _ ← allAttributes
  visibility
  let _ ← ident
  match (← peek) with
  | some (.group _ closing .brace content) => do
    advance 1
    let _ ← fields content closing
  | some (.group _ closing .paren content) => do
    advance 1
    let _ ← inside content closing (separatedToEnd unnamedField)
  | _ => pure ()
  if (← acceptMarks "=") then do
    let _ ← expression

/-- The body of a structure, with its conditions in front of it or behind its fields without names. -/
def structBody : Parsing (ItemBody × List Tree) := do
  let front ← conditions
  match (← peek) with
  | some (.group _ closing .brace content) => do
    advance 1
    return (.named (← fields content closing), front)
  | some (.group _ closing .paren content) => do
    advance 1
    let _ ← inside content closing (separatedToEnd unnamedField)
    let behind ← conditions
    expectMarks ";"
    return (.unnamed, front ++ behind)
  | _ => do
    expectMarks ";"
    return (.unnamed, front)

def enumBody : Parsing (ItemBody × List Tree) := do
  let front ← conditions
  let (content, closing) ← group .brace "expected curly braces"
  let _ ← inside content closing (separatedToEnd variant)
  return (.other, front)

def unionBody : Parsing (ItemBody × List Tree) := do
  let front ← conditions
  let (content, closing) ← group .brace "expected curly braces"
  let _ ← fields content closing
  return (.other, front)

def namedItem (attributes : List Attribute) (body : Parsing (ItemBody × List Tree)) : Parsing Item := do
  let i ← ident
  let parameters ← generics
  let (body, conditions) ← body
  return ⟨attributes, i, ⟨parameters, conditions⟩, body⟩

def item : Parsing Item := do
  let attributes ← allAttributes
  visibility
  if (← acceptKeyword "struct") then namedItem attributes structBody
  else do
    if (← acceptKeyword "enum") then namedItem attributes enumBody
    else do
      expectKeyword "union"
      namedItem attributes unionBody

end Parsing

def endSpot (text : String) : Spot :=
  Spot.start.after text.toList

def Item.read? (text : String) : Option Item :=
  match trees text with
  | .ok ts =>
    match item.run ts (endSpot text) with
    | .ok i => some i
    | .error _ => none
  | .error _ => none

def Attribute.read? (text : String) : Option Attribute :=
  match trees text with
  | .ok ts =>
    match oneAttribute.run ts (endSpot text) with
    | .ok a => some a
    | .error _ => none
  | .error _ => none

end FieldRules.Source
