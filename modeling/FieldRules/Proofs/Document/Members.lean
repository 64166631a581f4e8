import FieldRules.Document.Members
import Mathlib.Data.List.Nodup

/-!
# Members that are written and read

A structure whose members have different names is read member by member, and a member that was left out
for want of content is read as the content it has when it is not there.
-/
set_option autoImplicit false

namespace FieldRules

namespace Document

variable {α : Type} {names : List String} {entries : List (String × Document)}

def keys (entries : List (String × Document)) : List String :=
  entries.map Prod.fst

theorem read_bind {β : Type} {part : Option α} {a : α} (h : part = some a) (rest : α → Option β) :
    (part >>= rest) = rest a := by
  rw [h]
  rfl

theorem members?_map (entries : List (String × Document)) (names : List String) (h : (keys entries).Nodup) :
    (map entries).members? names = some entries := by
  have hOnce : (names.all fun name => (entries.filter fun e => e.1 == name).length ≤ 1) = true := by
    refine List.all_eq_true.mpr fun name _ => decide_eq_true ?_
    have hCount := List.nodup_iff_count_le_one.mp h name
    rwa [keys, List.count, List.countP_map, List.countP_eq_length_filter] at hCount
  simp only [members?, map?, untagged, hOnce, if_true]

theorem keys_unlessNone_sublist (name : String) (write : α → Document) (a : Option α) :
    (keys (unlessNone name write a)).Sublist [name] := by
  cases a <;> simp [unlessNone, keys]

theorem keys_unlessEmpty_sublist (name : String) (write : α → Document) (items : List α) :
    (keys (unlessEmpty name write items)).Sublist [name] := by
  unfold unlessEmpty
  split <;> simp [keys]

theorem items?_list {read : Document → Option α} {write : α → Document} {items : List α}
    (h : ∀ a ∈ items, read (write a) = some a) : (list (items.map write)).items? read = some items := by
  simp only [items?, list?, untagged, Option.bind_some]
  induction items with
  | nil => rfl
  | cons a items ih =>
    simp [h a List.mem_cons_self, ih fun b hb => h b (List.mem_cons_of_mem _ hb)]

theorem optional?_of_read {read : Document → Option α} {d : Document} {a : α} (hNull : d.isNull = false)
    (h : read d = some a) : optional? read d = some (some a) := by
  simp [optional?, hNull, h]

theorem optional?_orNull {read : Document → Option α} {write : α → Document} {a : Option α}
    (hNull : ∀ x ∈ a, (write x).isNull = false) (h : ∀ x ∈ a, read (write x) = some x) :
    optional? read (orNull write a) = some a := by
  cases a with
  | none => rfl
  | some x => exact optional?_of_read (hNull x rfl) (h x rfl)

theorem resolvedItems?_eq_self {items : List Document} (h : ∀ d ∈ items, d.resolved? = some d) :
    resolvedItems? items = some items := by
  induction items with
  | nil => rfl
  | cons d items ih =>
    simp [resolvedItems?, h d List.mem_cons_self, ih fun e he => h e (List.mem_cons_of_mem _ he)]

end Document

namespace Members

open Document

variable {α : Type} {m : Members} {name : String} {read : Document → Option α}

@[simp] theorem get?_nil (name : String) : get? [] name = none :=
  rfl

@[simp] theorem get?_cons (key : String) (d : Document) (m : Members) (name : String) :
    get? ((key, d) :: m) name = if name = key then some d else m.get? name := by
  by_cases h : name = key
  · simp [get?, h]
  · simp [get?, List.lookup_cons, beq_false_of_ne h, h]

@[simp] theorem get?_append (m m' : Members) (name : String) :
    get? (m ++ m') name = (m.get? name).or (m'.get? name) :=
  List.lookup_append

@[simp] theorem get?_unlessNone (key : String) (write : α → Document) (a : Option α) (name : String) :
    get? (unlessNone key write a) name = if name = key then a.map write else none := by
  cases a <;> simp [unlessNone]

@[simp] theorem get?_unlessEmpty (key : String) (write : α → Document) (items : List α) (name : String) :
    get? (unlessEmpty key write items) name =
      if name = key ∧ items ≠ [] then some (list (items.map write)) else none := by
  cases items <;> simp [unlessEmpty]

theorem get?_eq_none (h : name ∉ keys m) : m.get? name = none := by
  refine List.lookup_eq_none_iff.mpr fun e he => bne_iff_ne.mpr fun hName => h ?_
  exact List.mem_map.mpr ⟨e, he, hName.symm⟩

theorem required_eq_some {d : Document} {a : α} (hGet : m.get? name = some d) (h : read d = some a) :
    m.required name read = some a := by
  rw [required, hGet, Option.bind_some, h]

theorem orElse_eq_some {d : Document} {a absent : α} (hGet : m.get? name = some d) (h : read d = some a) :
    m.orElse name read absent = some a := by
  rw [orElse, hGet]
  exact h

theorem optional_orNull (write : α → Document) {a : Option α} (hGet : m.get? name = some (orNull write a))
    (hNull : ∀ x ∈ a, (write x).isNull = false) (h : ∀ x ∈ a, read (write x) = some x) :
    m.optional name read = some a :=
  orElse_eq_some hGet (optional?_orNull hNull h)

theorem orElse_unlessEmpty (write : α → Document) {items : List α}
    (hGet : m.get? name = if items ≠ [] then some (list (items.map write)) else none)
    (h : ∀ a ∈ items, read (write a) = some a) : m.orElse name (items? read) [] = some items := by
  rw [orElse, hGet]
  cases items with
  | nil => rfl
  | cons a items => exact items?_list h

theorem optional_unlessNone (write : α → Document) {a : Option α} (hGet : m.get? name = a.map write)
    (hNull : ∀ x ∈ a, (write x).isNull = false) (h : ∀ x ∈ a, read (write x) = some x) :
    m.optional name read = some a := by
  rw [optional, orElse, hGet]
  cases a with
  | none => rfl
  | some x => exact optional?_of_read (hNull x rfl) (h x rfl)

end Members
end FieldRules
