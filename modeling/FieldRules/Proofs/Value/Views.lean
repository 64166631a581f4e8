import FieldRules.Value.Shape

/-!
# Views of typed fields

A field that answers a view of its own answers it as its dynamic value does, and a directive acts on the
field as it does on that value. Both hold of every shape built from the library's own types.
-/
set_option autoImplicit false

namespace FieldRules

/-- What a view says, the value behind it says as well. -/
def Echoes {α : Type} (own dynamic : Option α) : Prop :=
  ∀ a, own = some a → dynamic = some a

namespace Echoes

variable {α β : Type} {own dynamic : Option α}

theorem silent (dynamic : Option α) : Echoes none dynamic := by
  intro a h
  cases h

theorem refl (dynamic : Option α) : Echoes dynamic dynamic :=
  fun _ h => h

theorem or_eq (h : Echoes own dynamic) : own.or dynamic = dynamic := by
  cases own with
  | none => rfl
  | some a => exact (h a rfl).symm

end Echoes

/-- The views of a field agree with its dynamic value. Null and the text have to be the same on both sides;
the other views may be left to the value. -/
structure ViewsAgree {α : Type} [FieldValue α] (a : α) : Prop where
  isNull_eq : FieldValue.isNull a = (FieldValue.toValue a).isNull
  display?_eq : FieldValue.display? a = (FieldValue.toValue a).display?
  text? : Echoes (FieldValue.text? a) (FieldValue.toValue a).text?
  number? : Echoes (FieldValue.number? a) (FieldValue.toValue a).number?
  instant? : Echoes (FieldValue.instant? a) (FieldValue.toValue a).instant?

/-- A directive on a field does what it does to the dynamic value. -/
def SanitizesAsValue {α : Type} [FieldValue α] (a : α) : Prop :=
  ∀ d, FieldValue.toValue (FieldValue.sanitize d a) = (FieldValue.toValue a).sanitize d

theorem IntKind.holds_iff (k : IntKind) (i : Int) : k.holds i = true ↔ k.least ≤ i ∧ i ≤ k.greatest := by
  simp [holds]

namespace Value

theorem viewsAgree (v : Value) : ViewsAgree v where
  isNull_eq := rfl
  display?_eq := rfl
  text? := .refl _
  number? := .refl _
  instant? := .refl _

@[simp] theorem sanitize_null (d : Directive) : null.sanitize d = null :=
  rfl

theorem toInt_ofInt_of_holds {i : Int} (h : (IntKind.signed 64).holds i = true) : (Int64.ofInt i).toInt = i := by
  have hBounds := (IntKind.holds_iff (.signed 64) i).mp h
  have hLeast : -2 ^ 63 ≤ i := hBounds.1
  have hGreatest : i ≤ 2 ^ 63 - 1 := hBounds.2
  exact Int64.toInt_ofInt_of_le hLeast (by omega)

/-- Integers beyond 64 bits are the numbers that rules would round them to anyway. -/
theorem number?_ofInt (i : Int) : (ofInt i).number? = some (Double.ofInt i) := by
  unfold ofInt
  split
  · next h => rw [number?, toInt_ofInt_of_holds h]
  · rfl

theorem display?_ofInt (i : Int) :
    (ofInt i).display? = some (if (IntKind.signed 64).holds i then toString i else (Double.ofInt i).plain) := by
  unfold ofInt
  split
  · next h => rw [display?, toInt_ofInt_of_holds h]
  · rfl

theorem isNull_ofInt (i : Int) : (ofInt i).isNull = false := by
  unfold ofInt
  split <;> rfl

theorem sanitize_ofInt (d : Directive) (i : Int) : (ofInt i).sanitize d = ofInt i := by
  unfold ofInt
  split <;> rfl

end Value

namespace Shape

variable {α : Type} [FieldValue α]

theorem viewsAgree_none : ViewsAgree (none : Option α) where
  isNull_eq := rfl
  display?_eq := rfl
  text? := .silent _
  number? := .silent _
  instant? := .silent _

theorem viewsAgree_some {a : α} (h : ViewsAgree a) : ViewsAgree (some a) where
  isNull_eq := h.isNull_eq
  display?_eq := h.display?_eq
  text? := h.text?
  number? := h.number?
  instant? := h.instant?

theorem viewsAgree_boxed {a : Boxed α} (h : ViewsAgree a.content) : ViewsAgree a where
  isNull_eq := h.isNull_eq
  display?_eq := h.display?_eq
  text? := h.text?
  number? := h.number?
  instant? := h.instant?

theorem viewsAgree_int {k : IntKind} (n : Bounded k) : ViewsAgree n where
  isNull_eq := (Value.isNull_ofInt n.val).symm
  display?_eq := rfl
  text? := .silent _
  number? := by
    intro x h
    exact (Value.number?_ofInt n.val).trans h
  instant? := .silent _

/-- By induction on the nesting: a wrapper hands every view through, and a missing value is null. -/
theorem viewsAgree (s : Shape) (hBuiltIn : s.isBuiltIn = true) (x : s.Carrier) : ViewsAgree x := by
  induction s with
  | text => exact ⟨rfl, rfl, .refl _, .silent _, .silent _⟩
  | bool => exact ⟨rfl, rfl, .silent _, .silent _, .silent _⟩
  | int kind => exact viewsAgree_int (k := kind) x
  | single => exact ⟨rfl, rfl, .silent _, .refl _, .silent _⟩
  | double => exact ⟨rfl, rfl, .silent _, .refl _, .silent _⟩
  | day => exact ⟨rfl, rfl, .silent _, .silent _, .refl _⟩
  | localTime => exact ⟨rfl, rfl, .silent _, .silent _, .refl _⟩
  | instant => exact ⟨rfl, rfl, .silent _, .silent _, .refl _⟩
  | value => exact Value.viewsAgree x
  | custom => cases hBuiltIn
  | option inner ih =>
    cases (x : Option inner.Carrier) with
    | none => exact viewsAgree_none (α := inner.Carrier)
    | some a => exact viewsAgree_some (ih hBuiltIn a)
  | boxed inner ih => exact viewsAgree_boxed (ih hBuiltIn (Boxed.content x))

/-- Only texts are changed, and behind any wrapper they are changed alike. -/
theorem sanitizesAsValue (s : Shape) (hBuiltIn : s.isBuiltIn = true) (x : s.Carrier) :
    SanitizesAsValue x := by
  intro d
  induction s with
  | int kind => exact (Value.sanitize_ofInt d (Bounded.val (k := kind) x)).symm
  | custom => cases hBuiltIn
  | option inner ih =>
    cases (x : Option inner.Carrier) with
    | none => rfl
    | some a => exact ih hBuiltIn a
  | boxed inner ih => exact ih hBuiltIn (Boxed.content x)
  | text | bool | single | double | day | localTime | instant | value => rfl

end Shape

namespace Typed

theorem viewsAgree {t : Typed} (h : t.shape.isBuiltIn = true) : ViewsAgree t := by
  have hContent := Shape.viewsAgree t.shape h t.content
  exact ⟨hContent.isNull_eq, hContent.display?_eq, hContent.text?, hContent.number?, hContent.instant?⟩

theorem sanitizesAsValue {t : Typed} (h : t.shape.isBuiltIn = true) : SanitizesAsValue t :=
  Shape.sanitizesAsValue t.shape h t.content

@[simp] theorem sanitize_shape (d : Directive) (t : Typed) : (FieldValue.sanitize d t).shape = t.shape :=
  rfl

end Typed
end FieldRules
