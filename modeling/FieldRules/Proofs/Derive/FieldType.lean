import FieldRules.Derive.FieldType
import FieldRules.Derive.Shape

/-!
# Types of fields and their values

What rules take for the type of a field is read off the written type, what they take for its value is read off the
content. Both go through every option, box and pair of parentheses, and they agree at any depth: the field is nullable
exactly if one of its values is null, and every other value is of the type.
-/
set_option autoImplicit false

namespace FieldRules

/-- A value that is not null is of a type. An integer that 64 bits do not hold is a number like any other. -/
inductive Value.IsOf : FieldType → Value → Prop where
  | string (s : String) : IsOf .string (.text s)
  | bool (b : Bool) : IsOf .bool (.bool b)
  | int (i : Int64) : IsOf .int (.int i)
  | rounded (x : Double) : IsOf .int (.float x)
  | float (x : Double) : IsOf .float (.float x)
  | date (t : Instant) : IsOf .date (.date t)

theorem Value.isOf_ofInt (i : Int) : (ofInt i).IsOf .int := by
  unfold ofInt
  split
  · exact .int _
  · exact .rounded _

theorem Value.IsOf.ne_null {type : FieldType} {v : Value} (h : v.IsOf type) : v ≠ .null := by
  rintro rfl
  cases h

namespace Derive

open Source

/-- The types that no option or box is around, each with the shape of its values and the type that rules see. -/
inductive Innermost : TypeExpr → Shape → FieldType → Prop where
  | text : Innermost (.path "String" []) .text .string
  | bool : Innermost (.path "bool" []) .bool .bool
  | int {name : String} {kind : IntKind} (hKind : intKind? name = some kind) :
    Innermost (.path name []) (.int kind) .int
  | single : Innermost (.path "f32" []) .single .float
  | double : Innermost (.path "f64" []) .double .float
  | day : Innermost (.path "NaiveDate" []) .day .date
  | localTime : Innermost (.path "NaiveDateTime" []) .localTime .date
  | instant (zone : TypeExpr) : Innermost (.path "DateTime" [some zone]) .instant .date

inductive Wrapper where
  | option
  | boxed
  | paren
  | grouped
  deriving DecidableEq

namespace Wrapper

def written : Wrapper → TypeExpr → TypeExpr
  | option, e => .path "Option" [some e]
  | boxed, e => .path "Box" [some e]
  | paren, e => .paren e
  | grouped, e => .grouped e

/-- The shape of the values of a type in a wrapper. Only options and boxes are seen in them. -/
def shape : Wrapper → Shape → Shape
  | option, s => .option s
  | boxed, s => .boxed s
  | paren, s => s
  | grouped, s => s

/-- Only an option makes a field nullable, and no wrapper hides one inside it. -/
theorem fieldType_written (w : Wrapper) (e : TypeExpr) :
    fieldType (w.written e) = ((fieldType e).1, decide (w = .option) || (fieldType e).2) := by
  cases w with
  | option | boxed | paren | grouped => simp [written, fieldType]

theorem shapeOf?_written (w : Wrapper) (e : TypeExpr) : shapeOf? (w.written e) = (shapeOf? e).map w.shape := by
  cases w with
  | option | boxed => rfl
  | paren | grouped => exact Option.map_id'.symm

end Wrapper

def nested (wrappers : List Wrapper) (e : TypeExpr) : TypeExpr :=
  wrappers.foldr Wrapper.written e

def nestedShape (wrappers : List Wrapper) (s : Shape) : Shape :=
  wrappers.foldr Wrapper.shape s

theorem int_of_intKind? {name : String} {kind : IntKind} (h : intKind? name = some kind) :
    typeOfName name = .int ∧ builtIn? name = some (.int kind) := by
  obtain ⟨before, after, hTable, -⟩ := List.lookup_eq_some_iff.mp h
  have hMem : (name, kind) ∈ before ++ (name, kind) :: after := List.mem_append_right _ List.mem_cons_self
  rw [← hTable] at hMem
  refine (?_ : ∀ entry : String × IntKind, entry ∈ _ →
    typeOfName entry.1 = .int ∧ builtIn? entry.1 = some (.int entry.2)) _ hMem
  decide

namespace Innermost

variable {e : TypeExpr} {s : Shape} {type : FieldType}

theorem fieldType_eq (h : Innermost e s type) : fieldType e = (type, false) := by
  cases h with
  | int hKind =>
    rw [fieldType, (int_of_intKind? hKind).1]
    nofun
  | text | bool | single | double | day | localTime | instant => rfl

theorem shapeOf?_eq (h : Innermost e s type) : shapeOf? e = some s := by
  cases h with
  | int hKind =>
    rw [shapeOf?, (int_of_intKind? hKind).2]
    · rfl
    · nofun
  | text | bool | single | double | day | localTime | instant => rfl

theorem isOf_toValue (h : Innermost e s type) (x : s.Carrier) : (FieldValue.toValue x).IsOf type := by
  cases h with
  | text => exact .string x
  | bool => exact .bool x
  | int hKind => exact Value.isOf_ofInt (Bounded.val x)
  | single => exact .float (Single.widened x)
  | double => exact .float x
  | day => exact .date (Day.start x)
  | localTime => exact .date (LocalTime.asUniversal x)
  | instant => exact .date x

end Innermost

section Nested

variable {e : TypeExpr} {s : Shape} {type : FieldType} (wrappers : List Wrapper)

theorem fieldType_nested (hInner : fieldType e = (type, false)) :
    fieldType (nested wrappers e) = (type, decide (.option ∈ wrappers)) := by
  induction wrappers with
  | nil => exact hInner
  | cons w rest ih =>
    have hNext : nested (w :: rest) e = w.written (nested rest e) := rfl
    rw [hNext, Wrapper.fieldType_written, ih]
    simp only [List.mem_cons, Bool.decide_or, eq_comm]

theorem shapeOf?_nested (hInner : shapeOf? e = some s) :
    shapeOf? (nested wrappers e) = some (nestedShape wrappers s) := by
  induction wrappers with
  | nil => exact hInner
  | cons w rest ih =>
    have hNext : nested (w :: rest) e = w.written (nested rest e) := rfl
    rw [hNext, Wrapper.shapeOf?_written, ih]
    rfl

/-- By induction on the wrappers: a null comes from an option, and all else comes from the content. -/
theorem toValue_nested (hInner : ∀ x : s.Carrier, (FieldValue.toValue x).IsOf type)
    (x : (nestedShape wrappers s).Carrier) :
    (FieldValue.toValue x = .null ∧ .option ∈ wrappers) ∨ (FieldValue.toValue x).IsOf type := by
  induction wrappers with
  | nil => exact .inr (hInner x)
  | cons w rest ih =>
    have hOuter {v : Value} (h : (v = .null ∧ .option ∈ rest) ∨ v.IsOf type) :
        (v = .null ∧ .option ∈ w :: rest) ∨ v.IsOf type :=
      h.imp_left (And.imp_right (List.mem_cons_of_mem w))
    cases w with
    | option =>
      cases (x : Option (nestedShape rest s).Carrier) with
      | none => exact .inl ⟨rfl, List.mem_cons_self⟩
      | some content => exact hOuter (ih content)
    | boxed => exact hOuter (ih (Boxed.content x))
    | paren | grouped => exact hOuter (ih x)

theorem exists_null_nested (hOption : .option ∈ wrappers) :
    ∃ x : (nestedShape wrappers s).Carrier, FieldValue.toValue x = .null := by
  induction wrappers with
  | nil => cases hOption
  | cons w rest ih =>
    cases w with
    | option => exact ⟨(none : Option (nestedShape rest s).Carrier), rfl⟩
    | boxed =>
      obtain ⟨x, hx⟩ := ih ((List.mem_cons.mp hOption).resolve_left nofun)
      exact ⟨Boxed.mk x, hx⟩
    | paren | grouped => exact ih ((List.mem_cons.mp hOption).resolve_left nofun)

end Nested

/-- The type that is declared for a field is that of the innermost type, and the field is nullable exactly if an option
is around it. Its values are null only if it is nullable, then some of them are, and all others are of the type. -/
theorem fieldType_describes_values {e : TypeExpr} {s : Shape} {type : FieldType} (hInner : Innermost e s type)
    (wrappers : List Wrapper) :
    fieldType (nested wrappers e) = (type, decide (.option ∈ wrappers)) ∧
    shapeOf? (nested wrappers e) = some (nestedShape wrappers s) ∧
    (∀ x : (nestedShape wrappers s).Carrier,
      (FieldValue.toValue x = .null → .option ∈ wrappers) ∧
      (FieldValue.toValue x ≠ .null → (FieldValue.toValue x).IsOf type)) ∧
    (.option ∈ wrappers → ∃ x : (nestedShape wrappers s).Carrier, FieldValue.toValue x = .null) := by
  refine ⟨fieldType_nested wrappers hInner.fieldType_eq, shapeOf?_nested wrappers hInner.shapeOf?_eq, fun x => ?_,
    exists_null_nested wrappers⟩
  obtain ⟨hNull, hOption⟩ | hIsOf := toValue_nested wrappers hInner.isOf_toValue x
  · exact ⟨fun _ => hOption, fun hSome => absurd hNull hSome⟩
  · exact ⟨fun hNull => absurd hNull hIsOf.ne_null, fun _ => hIsOf⟩

/-- The greatest integer of 64 bits without a sign, in an option in an option in a box: it is read as a number that is
no integer, and a box without it as null. -/
theorem fieldType_describes_values_u64 :
    intKind? "u64" = some (.unsigned 64) ∧
    fieldType (.path "Box" [some (.paren (.path "Option" [some (.path "Option" [some (.path "u64" [])])]))]) =
      (.int, true) ∧
    ∃ x y : (Shape.boxed (.option (.option (.int (.unsigned 64))))).Carrier,
      FieldValue.toValue x = .float (Double.ofInt 18446744073709551615) ∧ (FieldValue.toValue x).IsOf .int ∧
      FieldValue.toValue y = .null := by
  let wrappers : List Wrapper := [.boxed, .paren, .option, .option]
  have hInner : Innermost (.path "u64" []) (.int (.unsigned 64)) .int := .int rfl
  obtain ⟨hType, -, hValues, hNull⟩ := fieldType_describes_values hInner wrappers
  let greatest : Bounded (.unsigned 64) := ⟨18446744073709551615, by decide⟩
  let x : (nestedShape wrappers (.int (.unsigned 64))).Carrier := Boxed.mk (some (some greatest))
  have hFloat : FieldValue.toValue x = .float (Double.ofInt 18446744073709551615) := rfl
  obtain ⟨y, hy⟩ := hNull (by decide)
  exact ⟨rfl, hType, x, y, hFloat, (hValues x).2 (by rw [hFloat]; nofun), hy⟩

end Derive
end FieldRules
