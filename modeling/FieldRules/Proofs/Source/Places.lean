import FieldRules.Proofs.Source.Reading

/-!
# Places

Trees, paths and expressions without their places: what is left of them is how they are written. No reader looks at
the place of an expression, except to say where it was refused.
-/
set_option autoImplicit false

namespace FieldRules.Source

mutual

/-- A tree as it is written, wherever it stands. -/
def Tree.placeless : Tree → Tree
  | .name _ raw text => .name .start raw text
  | .mark _ c _ => .mark .start c false
  | .lifetime _ text => .lifetime .start text
  | .literal _ l => .literal .start l
  | .group _ _ d content => .group .start .start d (placelessTrees content)

def placelessTrees : List Tree → List Tree
  | [] => []
  | t :: rest => t.placeless :: placelessTrees rest

end

mutual

theorem Tree.words_placeless : ∀ t : Tree, t.placeless.words = t.words
  | .name .. | .mark .. | .lifetime .. | .literal .. => rfl
  | .group _ _ d content => by rw [Tree.placeless, Tree.words, Tree.words, words_placelessTrees content]

theorem words_placelessTrees : ∀ ts : List Tree, words (placelessTrees ts) = words ts
  | [] => rfl
  | t :: rest => by rw [placelessTrees, words, words, t.words_placeless, words_placelessTrees rest]

end

def Ident.placeless (i : Ident) : Ident :=
  { i with spot := .start }

def Path.placeless (p : Path) : Path :=
  { p with trees := placelessTrees p.trees }

theorem Path.spelling_placeless (p : Path) : p.placeless.spelling = p.spelling := by
  rw [spelling, spelling, placeless, words_placelessTrees]

namespace Expr

mutual

def placeless : Expr → Expr
  | constant _ c => .constant .start c
  | negation _ inner => .negation .start inner.placeless
  | array _ items => .array .start (placelessItems items)
  | path _ p => .path .start p.placeless
  | grouped _ inner => .grouped .start inner.placeless
  | other _ => .other .start

def placelessItems : List Expr → List Expr
  | [] => []
  | e :: rest => e.placeless :: placelessItems rest

end

theorem placelessItems_eq_map (items : List Expr) : placelessItems items = items.map placeless := by
  induction items with
  | nil => rfl
  | cons e rest ih => rw [placelessItems, ih, List.map_cons]

theorem number_placeless : ∀ (e : Expr) (x : Double), e.placeless.number = .ok x ↔ e.number = .ok x
  | constant _ (.int _), _ | constant _ (.float _), _ => Iff.rfl
  | negation _ inner, x => by simp only [placeless, number, map_eq_ok_iff, number_placeless inner]
  | grouped _ inner, x => number_placeless inner x
  | constant _ (.text _), _ | constant _ (.bool _), _ | constant _ .other, _ | array _ _, _ | path _ _, _
  | other _, _ => ⟨nofun, nofun⟩

theorem size_placeless : ∀ (e : Expr) (n : UInt64), e.placeless.size = .ok n ↔ e.size = .ok n
  | constant _ (.int n), _ => by
    simp only [placeless, size]
    split <;> simp [unfit]
  | grouped _ inner, n => size_placeless inner n
  | constant _ (.float _), _ | constant _ (.text _), _ | constant _ (.bool _), _ | constant _ .other, _
  | negation _ _, _ | array _ _, _ | path _ _, _ | other _, _ => ⟨nofun, nofun⟩

theorem text_placeless : ∀ (e : Expr) (s : String), e.placeless.text = .ok s ↔ e.text = .ok s
  | constant _ (.text _), _ => Iff.rfl
  | grouped _ inner, s => text_placeless inner s
  | constant _ (.int _), _ | constant _ (.float _), _ | constant _ (.bool _), _ | constant _ .other, _
  | negation _ _, _ | array _ _, _ | path _ _, _ | other _, _ => ⟨nofun, nofun⟩

theorem texts_placeless (e : Expr) (texts : List String) : e.placeless.texts = .ok texts ↔ e.texts = .ok texts := by
  have hText := text_placeless e
  cases e with
  | array spot items =>
    simp only [placeless, Expr.texts, placelessItems_eq_map, mapM_eq_ok_iff, List.forall₂_map_left_iff,
      text_placeless]
  | constant | negation | path | grouped | other =>
    simp only [placeless] at hText
    simp only [placeless, Expr.texts, map_eq_ok_iff, hText]

theorem value_negation_eq_ok_iff {spot : Spot} {inner : Expr} {w : Value} :
    (negation spot inner).value = .ok w ↔ ∃ v, inner.value = .ok v ∧ negated? v = some w := by
  rw [value]
  cases inner.value with
  | error d => exact ⟨nofun, nofun⟩
  | ok v => cases hNegated : negated? v <;> simp [hNegated, unfit]

theorem value_placeless : ∀ (e : Expr) (v : Value), e.placeless.value = .ok v ↔ e.value = .ok v
  | constant _ (.int n), _ => by
    simp only [placeless, value]
    split <;> simp [unfit]
  | constant _ (.float _), _ | constant _ (.text _), _ | constant _ (.bool _), _ => Iff.rfl
  | negation _ inner, v => by simp only [placeless, value_negation_eq_ok_iff, value_placeless inner]
  | grouped _ inner, v => value_placeless inner v
  | path _ p, _ => by
    have hName : p.placeless.name? = p.name? := rfl
    simp only [placeless, value, hName]
    split <;> simp [unfit]
  | constant _ .other, _ | array _ _, _ | other _, _ => ⟨nofun, nofun⟩

theorem pathOfText_eq_ok_iff (spot spot' : Spot) {s : String} {p : Path} :
    pathOfText spot s = .ok p ↔ pathOfText spot' s = .ok p := by
  unfold pathOfText
  split
  · exact ⟨nofun, nofun⟩
  · split
    · rfl
    · exact ⟨nofun, nofun⟩

/-- The function that an expression refers to, by its path as it is written. -/
def Refers (e : Expr) (spelling : String) : Prop :=
  ∃ p, e.functionPath = .ok p ∧ p.spelling = spelling

theorem refers_placeless : ∀ (e : Expr) (spelling : String), e.placeless.Refers spelling ↔ e.Refers spelling
  | path _ p, spelling => by
    simp only [Refers, placeless, functionPath, Except.ok.injEq, exists_eq_left', Path.spelling_placeless]
  | constant spot (.text s), spelling => by
    simp only [Refers, placeless, functionPath, pathOfText_eq_ok_iff .start spot]
  | grouped _ inner, spelling => refers_placeless inner spelling
  | constant _ (.int _), _ | constant _ (.float _), _ | constant _ (.bool _), _ | constant _ .other, _
  | negation _ _, _ | array _ _, _ | other _, _ => ⟨nofun, nofun⟩

end Expr
end FieldRules.Source
