import FieldRules.Source.Item
import FieldRules.Value.Basic

/-!
# Reading values from expressions

What an expression of an attribute stands for, by the kind of value that is asked for.
-/
set_option autoImplicit false

namespace FieldRules.Source

/-- A result that may be refused at a place of the source. -/
abbrev Reading (α : Type) := Except Diagnostic α

def Expr.unfit {α : Type} (e : Expr) (message : String) : Reading α :=
  .error ⟨e.spot, message⟩

def tooLarge : String :=
  "number too large to fit in target type"

namespace Expr

/-- A number, negated any number of times. -/
def number : Expr → Reading Double
  | constant _ (.int n) => .ok (Double.ofInt n)
  | constant _ (.float x) => .ok x
  | negation _ inner => (number inner).map Double.neg
  | grouped _ inner => number inner
  | e => e.unfit "expected a numeric literal"

def size : Expr → Reading UInt64
  | e@(constant _ (.int n)) => if (IntKind.unsigned 64).holds n then .ok (UInt64.ofNat n) else e.unfit tooLarge
  | e@(negation _ _) => e.unfit "length bounds must not be negative"
  | grouped _ inner => size inner
  | e => e.unfit "expected a non-negative integer literal"

def text : Expr → Reading String
  | constant _ (.text s) => .ok s
  | grouped _ inner => text inner
  | e => e.unfit "expected a string literal"

/-- The parts of a text between commas, trimmed, without empty ones. -/
def listed (s : String) : List String :=
  ((s.splitOn ",").map Text.trim).filter fun part => !part.isEmpty

def texts : Expr → Reading (List String)
  | array _ items => items.mapM text
  | e => (text e).map listed

def negated? : Value → Option Value
  | .int i => some (.int (-i))
  | .float x => some (.float x.neg)
  | _ => none

/-- A value to compare with. The sign of an integer is not part of its literal, so that the literal has to fit
without it. -/
def value : Expr → Reading Value
  | e@(constant _ c) =>
    match c with
    | .text s => .ok (.text s)
    | .bool b => .ok (.bool b)
    | .int n => if (IntKind.signed 64).holds n then .ok (.int (Int64.ofNat n)) else e.unfit tooLarge
    | .float x => .ok (.float x)
    | .other => e.unfit "expected a string, integer, float or bool literal"
  | e@(negation _ inner) =>
    match value inner with
    | .error d => .error d
    | .ok v =>
      match negated? v with
      | some w => .ok w
      | none => e.unfit "expected a numeric literal after '-'"
  | e@(path _ p) =>
    if p.name? == some "None" || p.name? == some "null" then .ok .null else e.unfit "expected a literal"
  | grouped _ inner => value inner
  | e => e.unfit "expected a literal"

def plainPath : Parsing Path := do
  if (← Parsing.atMarks "<") then Parsing.expected "expected identifier"
  else Source.path (fuelFor (← Parsing.rest)) false

/-- A path spelled in a text. All its trees stand where the text stands. -/
def pathOfText (spot : Spot) (s : String) : Reading Path :=
  match trees s with
  | .error lexical => .error ⟨lexical, "cannot parse string into token stream"⟩
  | .ok ts =>
    match plainPath.run ts (Spot.start.after s.toList) with
    | .ok p => .ok p
    | .error d => .error ⟨spot, d.message⟩

def functionPath : Expr → Reading Path
  | path _ p => .ok p
  | constant spot (.text s) => pathOfText spot s
  | grouped _ inner => functionPath inner
  | e => e.unfit "expected a function path"

end Expr
end FieldRules.Source
