import FieldRules.Document.Yaml.Cursor

/-!
# Text over several lines

The characters of a scalar that may go over several lines, and what becomes of the gaps in it: blanks
inside a line stay, a single line end becomes a space, and further line ends stay.
-/
set_option autoImplicit false

namespace FieldRules.Yaml

/-- The gap that was read last and is not part of the text yet. -/
inductive Gap where
  /-- Blanks inside a line, the last one first. -/
  | blanks (s : List Char)
  /-- A line end, which an escape may have taken away, and the line ends after it, the last one first. -/
  | lines (first : Option Char) (more : List Char)

namespace Gap

def none : Gap :=
  blanks []

def isLines : Gap → Bool
  | blanks _ => false
  | lines _ _ => true

def isNone : Gap → Bool
  | blanks s => s.isEmpty
  | lines _ _ => false

/-- The gap with one more blank; blanks at the start of a line do not count. -/
def blank (g : Gap) (c : Char) : Gap :=
  match g with
  | blanks s => blanks (c :: s)
  | g => g

/-- The gap with one more line end; blanks before the end of a line do not count. -/
def lineEnd (g : Gap) (c : Char) : Gap :=
  match g with
  | blanks _ => lines (some c) []
  | lines first more => lines first (c :: more)

/-- What a gap adds to a text, the last character first. -/
def folded : Gap → List Char
  | blanks s => s
  | lines (some '\n') [] => [' ']
  | lines (some '\n') more => more
  | lines (some c) more => more ++ [c]
  | lines Option.none more => more

end Gap

structure Folding where
  text : List Char
  gap : Gap

namespace Folding

def empty : Folding :=
  ⟨[], .none⟩

def push (f : Folding) (c : Char) : Folding :=
  ⟨c :: (f.gap.folded ++ f.text), .none⟩

def skipGap (f : Folding) (c : Char) : Folding :=
  { f with gap := if isBreak c then f.gap.lineEnd c else f.gap.blank c }

def result (f : Folding) : String :=
  String.ofList f.text.reverse

end Folding
end FieldRules.Yaml
