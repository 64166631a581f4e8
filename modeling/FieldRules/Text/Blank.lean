/-!
# White space

The white space of texts is the Unicode property; trimming takes it off both ends.
-/
set_option autoImplicit false

namespace FieldRules.Text

/-- The characters with the Unicode property `White_Space`. -/
def isBlank (c : Char) : Bool :=
  let n := c.toNat
  (9 ≤ n && n ≤ 13) || n == 0x20 || n == 0x85 || n == 0xA0 || n == 0x1680 ||
    (0x2000 ≤ n && n ≤ 0x200A) || n == 0x2028 || n == 0x2029 || n == 0x202F || n == 0x205F || n == 0x3000

def trimStart (s : List Char) : List Char :=
  s.dropWhile isBlank

def trimEnd (s : List Char) : List Char :=
  (s.reverse.dropWhile isBlank).reverse

def trimChars (s : List Char) : List Char :=
  trimEnd (trimStart s)

def trim (s : String) : String :=
  String.ofList (trimChars s.toList)

def blank (s : String) : Bool :=
  s.toList.all isBlank

theorem dropWhile_eq_nil_iff {α : Type} (p : α → Bool) (s : List α) :
    s.dropWhile p = [] ↔ s.all p = true := by
  induction s with
  | nil => simp
  | cons c s ih => by_cases h : p c = true <;> simp_all

theorem trim_eq_empty_iff (s : String) : trim s = "" ↔ blank s = true := by
  have hStart : trimStart s.toList = [] ↔ blank s = true := by
    simp only [trimStart, blank, dropWhile_eq_nil_iff]
  rw [← hStart]
  constructor
  · intro h
    have h : trimChars s.toList = [] := by simpa [trim] using h
    simp only [trimChars, trimEnd, List.reverse_eq_nil_iff, dropWhile_eq_nil_iff, List.all_reverse] at h
    cases hList : trimStart s.toList with
    | nil => rfl
    | cons c rest =>
      rw [hList] at h
      have hHead : isBlank c = true := by simp at h; exact h.1
      have : (s.toList.dropWhile isBlank).head? = some c := by
        simpa [trimStart] using congrArg List.head? hList
      have hNot := List.head?_dropWhile_not isBlank s.toList
      rw [this] at hNot
      simp [hHead] at hNot
  · intro h
    simp [trim, trimChars, h, trimEnd]

end FieldRules.Text
