/-!
# Entries under names

Lists of entries in the order in which their names first came. A name has one entry; a later one takes
the place of the earlier.
-/
set_option autoImplicit false

namespace FieldRules

abbrev Keyed (α : Type) := List (String × α)

namespace Keyed

variable {α : Type}

def get? (entries : Keyed α) (name : String) : Option α :=
  match entries with
  | [] => none
  | (n, a) :: rest => if n = name then some a else get? rest name

def contains (entries : Keyed α) (name : String) : Bool :=
  (entries.get? name).isSome

/-- Puts an entry in the place of the earlier one of its name, or at the end. -/
def insert (entries : Keyed α) (name : String) (a : α) : Keyed α :=
  match entries with
  | [] => [(name, a)]
  | (n, b) :: rest => if n = name then (n, a) :: rest else (n, b) :: insert rest name a

def erase (entries : Keyed α) (name : String) : Keyed α :=
  entries.filter fun e => e.1 ≠ name

def names (entries : Keyed α) : List String :=
  entries.map Prod.fst

def ofList (entries : List (String × α)) : Keyed α :=
  entries.foldl (fun done e => insert done e.1 e.2) []

@[simp] theorem get?_insert (entries : Keyed α) (name other : String) (a : α) :
    (entries.insert name a).get? other = if name = other then some a else entries.get? other := by
  induction entries with
  | nil => simp [insert, get?]
  | cons e rest ih =>
    by_cases h : e.1 = name
    · subst h
      by_cases ho : e.1 = other <;> simp [insert, get?, ho]
    · by_cases ho : e.1 = other
      · subst ho
        simp [insert, get?, h, Ne.symm h]
      · simp [insert, get?, h, ho, ih]

@[simp] theorem get?_erase (entries : Keyed α) (name other : String) :
    (entries.erase name).get? other = if name = other then none else entries.get? other := by
  induction entries with
  | nil => simp [erase, get?]
  | cons e rest ih =>
    unfold erase at ih ⊢
    by_cases h : e.1 = name
    · subst h
      by_cases ho : e.1 = other <;> simp_all [get?]
    · by_cases ho : e.1 = other
      · subst ho
        simp [get?, h, Ne.symm h]
      · simp_all [get?]

end Keyed
end FieldRules
