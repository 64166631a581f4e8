import FieldRules.Text.Blank
import FieldRules.Text.Case

/-!
# Sanitizing

A directive normalizes the text of a field before any rule looks at it.
-/
set_option autoImplicit false

namespace FieldRules

/-- What is done to a text, always in the order trim, upper case, lower case. -/
structure Directive where
  trim : Bool
  upper : Bool
  lower : Bool
  deriving DecidableEq

namespace Directive

def none : Directive :=
  ⟨false, false, false⟩

instance : Inhabited Directive :=
  ⟨none⟩

def isNoop (d : Directive) : Bool :=
  !(d.trim || d.upper || d.lower)

def clean (d : Directive) (s : String) : String :=
  let s := if d.trim then Text.trim s else s
  let s := if d.upper then Text.upper s else s
  if d.lower then Text.lower s else s

def changed? (d : Directive) (s : String) : Option String :=
  let cleaned := d.clean s
  if cleaned == s then .none else some cleaned

theorem clean_of_isNoop (d : Directive) (h : d.isNoop = true) (s : String) : d.clean s = s := by
  obtain ⟨trim, upper, lower⟩ := d
  cases trim <;> cases upper <;> cases lower <;> simp_all [isNoop, clean]

theorem changed?_getD (d : Directive) (s : String) : (d.changed? s).getD s = d.clean s := by
  unfold changed?
  by_cases h : d.clean s = s <;> simp [h]

end Directive
end FieldRules
