import FieldRules.Source.Data

/-!
# Outermost forms of expressions

How an expression that builds data is read: a literal, a path, a call, a structure or a vector. What stands
between delimiters is only cut at its commas, so each part can be read in turn as an expression of its own. The
trees of an expression have the form that it was built with.
-/
set_option autoImplicit false

namespace FieldRules.Source

/-- The outermost form of an expression, with the trees of its parts. -/
inductive Form where
  | literal (negative : Bool) (l : Literal)
  | flag (b : Bool)
  | path (names : List String)
  | call (names : List String) (arguments : List (List Tree))
  | struct (names : List String) (members : List (String × List Tree))
  | vector (items : List (List Tree))

def attach (t : Tree) : List (List Tree) → List (List Tree)
  | [] => [[t]]
  | part :: rest => (t :: part) :: rest

def parts : List Tree → List (List Tree)
  | [] => []
  | t :: rest => if t.isMark ',' then [] :: parts rest else attach t (parts rest)

def pathNames : List Tree → List String × List Tree
  | .mark _ ':' true :: .mark _ ':' _ :: .name _ false name :: rest =>
    let (names, behind) := pathNames rest
    (name :: names, behind)
  | trees => ([], trees)

def member? : List Tree → Option (String × List Tree)
  | .name _ false name :: .mark _ ':' false :: value => some (name, value)
  | _ => none

namespace Form

def atom? : List Tree → Option Form
  | [.literal _ l] => some (.literal false l)
  | [.mark _ '-' _, .literal _ l] => some (.literal true l)
  | [.name _ false text] =>
    if text = "true" then some (.flag true)
    else if text = "false" then some (.flag false)
    else none
  | _ => none

/-- What a path and the trees behind it stand for. -/
def rooted? (names : List String) : List Tree → Option Form
  | [] => some (.path names)
  | [.group _ _ .paren content] => some (.call names (parts content))
  | [.group _ _ .brace content] => ((parts content).mapM member?).map (.struct names)
  | [.mark _ '!' _, .group _ _ .bracket content] =>
    if names = ["std", "vec"] then some (.vector (parts content)) else none
  | _ => none

def ofTrees? (trees : List Tree) : Option Form :=
  match pathNames trees with
  -- without a path at the front only a literal or a truth value is left
  | ([], trees) => atom? trees
  | (names, behind) => rooted? names behind

end Form

/-- No comma stands in a part, but for those between delimiters. -/
def IsPart (trees : List Tree) : Prop :=
  ∀ t ∈ trees, t.isMark ',' = false

namespace IsPart

theorem append {earlier later : List Tree} (hEarlier : IsPart earlier) (hLater : IsPart later) :
    IsPart (earlier ++ later) := by
  intro t ht
  rcases List.mem_append.mp ht with ht | ht
  · exact hEarlier t ht
  · exact hLater t ht

theorem single {t : Tree} (h : t.isMark ',' = false) : IsPart [t] := by
  intro u hu
  obtain rfl := List.mem_singleton.mp hu
  exact h

theorem rooted (names : List String) : IsPart (rooted names) := by
  intro t ht
  obtain ⟨name, -, ht⟩ := List.mem_flatMap.mp ht
  have hMarks : ∀ t ∈ punct "::", t.isMark ',' = false := by decide
  rcases List.mem_append.mp ht with ht | ht
  · exact hMarks t ht
  · exact single rfl t ht

theorem minusIf (negative : Bool) : IsPart (minusIf negative) := by
  cases negative with
  | false => exact fun t ht => absurd ht List.not_mem_nil
  | true => exact single rfl

theorem parts_append {part : List Tree} (h : IsPart part) (rest : List Tree) :
    parts (part ++ punct "," ++ rest) = part :: parts rest := by
  induction part with
  | nil => rfl
  | cons t part ih =>
    obtain ⟨ht, hPart⟩ := List.forall_mem_cons.mp h
    simp only [List.cons_append, parts, ht, ih hPart]
    rfl

theorem parts_eq {part : List Tree} (h : IsPart part) (hNe : part ≠ []) : parts part = [part] := by
  induction part with
  | nil => exact absurd rfl hNe
  | cons t part ih =>
    obtain ⟨ht, hPart⟩ := List.forall_mem_cons.mp h
    cases part with
    | nil => simp [parts, ht, attach]
    | cons u part =>
      rw [parts, ih hPart (List.cons_ne_nil u part), ht]
      rfl

end IsPart

theorem pathNames_rooted (names : List String) {behind : List Tree}
    (hBehind : pathNames behind = ([], behind)) : pathNames (rooted names ++ behind) = (names, behind) := by
  induction names with
  | nil => exact hBehind
  | cons name names ih =>
    have hCons : rooted (name :: names) ++ behind =
        .mark .start ':' true :: .mark .start ':' false :: .name .start false name ::
          (rooted names ++ behind) := rfl
    rw [hCons, pathNames, ih]

theorem mapM_map {α β γ : Type} {items : List α} {write : α → β} {read : β → Option γ} {content : α → γ}
    (h : ∀ a ∈ items, read (write a) = some (content a)) :
    (items.map write).mapM read = some (items.map content) := by
  induction items with
  | nil => rfl
  | cons a rest ih =>
    obtain ⟨ha, hRest⟩ := List.forall_mem_cons.mp h
    rw [List.map_cons, List.mapM_cons, ha, ih hRest]
    rfl

theorem Form.ofTrees?_rooted (name : String) (names : List String) (behind : List Tree)
    (hBehind : pathNames behind = ([], behind)) :
    ofTrees? (rooted (name :: names) ++ behind) = rooted? (name :: names) behind := by
  rw [ofTrees?, pathNames_rooted _ hBehind]

namespace DataExpr

theorem isPart_trees (e : DataExpr) : IsPart e.trees := by
  cases e with
  | text s => exact .single rfl
  | flag b => exact .single rfl
  | size n => exact (IsPart.minusIf _).append (.single rfl)
  | int i => exact (IsPart.minusIf _).append (.single rfl)
  | float x =>
    cases x with
    | nan => exact .rooted _
    | infinite negative => cases negative <;> exact .rooted _
    | finite x => exact (IsPart.minusIf _).append (.single rfl)
  | constant path => exact .rooted path
  | apply path argument => exact (IsPart.rooted path).append (.single rfl)
  | struct path members closed => exact (IsPart.rooted path).append (.single rfl)
  | vector items =>
    have hMark : IsPart (punct "!") := .single rfl
    exact ((IsPart.rooted _).append hMark).append (.single rfl)

/-- Only a path without names has no trees. -/
theorem trees_ne_nil {e : DataExpr} (h : e ≠ .constant []) : e.trees ≠ [] := by
  cases e with
  | constant path =>
    cases path with
    | nil => exact absurd rfl h
    | cons name names => exact List.cons_ne_nil _ _
  | float x =>
    cases x with
    | nan => exact List.cons_ne_nil _ _
    | infinite negative => cases negative <;> exact List.cons_ne_nil _ _
    | finite x => exact List.append_ne_nil_of_right_ne_nil _ (List.cons_ne_nil _ _)
  | text | flag => exact List.cons_ne_nil _ _
  | size | int | apply | struct | vector =>
    exact List.append_ne_nil_of_right_ne_nil _ (List.cons_ne_nil _ _)

def memberPart (m : String × DataExpr) : List Tree :=
  word m.1 ++ punct ":" ++ m.2.trees

theorem isPart_memberPart (m : String × DataExpr) : IsPart (memberPart m) := by
  have hName : IsPart (word m.1) := .single rfl
  have hColon : IsPart (punct ":") := .single rfl
  exact (hName.append hColon).append m.2.isPart_trees

theorem member?_memberPart (m : String × DataExpr) : member? (memberPart m) = Option.some (m.1, m.2.trees) :=
  rfl

theorem parts_memberTrees (closed : Bool) (members : List (String × DataExpr)) :
    parts (memberTrees closed members) = members.map memberPart := by
  -- only the last member may go without a comma, so the induction has a case of its own for it
  induction members with
  | nil => rfl
  | cons m rest ih =>
    cases rest with
    | nil =>
      cases closed with
      | false =>
        have hTrees : memberTrees false [m] = memberPart m := by simp [memberTrees, memberPart]
        rw [hTrees]
        exact (isPart_memberPart m).parts_eq (List.cons_ne_nil _ _)
      | true =>
        have hTrees : memberTrees true [m] = memberPart m ++ punct "," ++ [] := by
          simp [memberTrees, memberPart]
        rw [hTrees]
        exact (isPart_memberPart m).parts_append []
    | cons n rest =>
      have hTrees : memberTrees closed (m :: n :: rest) =
          memberPart m ++ punct "," ++ memberTrees closed (n :: rest) := by
        simp [memberTrees, memberPart]
      rw [hTrees, (isPart_memberPart m).parts_append, ih]
      rfl

theorem parts_itemTrees {items : List DataExpr} (hItems : ∀ e ∈ items, e ≠ .constant []) :
    parts (itemTrees items) = items.map trees := by
  induction items with
  | nil => rfl
  | cons e rest ih =>
    obtain ⟨he, hRest⟩ := List.forall_mem_cons.mp hItems
    cases rest with
    | nil => exact e.isPart_trees.parts_eq (trees_ne_nil he)
    | cons f rest =>
      have hTrees : itemTrees (e :: f :: rest) = e.trees ++ punct "," ++ itemTrees (f :: rest) := by
        simp [itemTrees]
      rw [hTrees, e.isPart_trees.parts_append, ih hRest]
      rfl

section Forms

variable (name : String) (names : List String)

theorem ofTrees?_text (s : String) :
    Form.ofTrees? (text s).trees = Option.some (.literal false ⟨Text.Quoted.encode s, .text s⟩) := by
  rfl

theorem ofTrees?_flag (b : Bool) : Form.ofTrees? (flag b).trees = Option.some (.flag b) := by
  cases b <;> rfl

theorem ofTrees?_int (i : Int) (type : String) : Form.ofTrees? (intLiteral i type) =
    Option.some (.literal (decide (i < 0)) ⟨toString i.natAbs ++ type, .int i.natAbs⟩) := by
  by_cases hNegative : i < 0
  · simp [intLiteral, hNegative]
    rfl
  · simp [intLiteral, hNegative]
    rfl

theorem ofTrees?_floatLiteral (x : Double) (type : String) : Form.ofTrees? (floatLiteral x type) =
    Option.some (.literal x.isNegative ⟨(magnitude x).plain ++ type, .float (magnitude x)⟩) := by
  rw [floatLiteral]
  cases x.isNegative <;> rfl

theorem ofTrees?_apply {e : DataExpr} (he : e ≠ .constant []) :
    Form.ofTrees? (apply (name :: names) e).trees = Option.some (.call (name :: names) [e.trees]) := by
  have hForm := Form.ofTrees?_rooted name names (parens e.trees) rfl
  have hArguments : parts e.trees = [e.trees] := e.isPart_trees.parts_eq (trees_ne_nil he)
  rw [trees, hForm, parens, Form.rooted?, hArguments]

theorem ofTrees?_struct (members : List (String × DataExpr)) (closed : Bool) :
    Form.ofTrees? (struct (name :: names) members closed).trees =
      Option.some (.struct (name :: names) (members.map fun m => (m.1, m.2.trees))) := by
  have hForm := Form.ofTrees?_rooted name names (braces (memberTrees closed members)) rfl
  rw [trees, hForm, braces, Form.rooted?, parts_memberTrees, mapM_map fun m _ => member?_memberPart m]
  rfl

theorem ofTrees?_vector {items : List DataExpr} (hItems : ∀ e ∈ items, e ≠ .constant []) :
    Form.ofTrees? (vector items).trees = Option.some (.vector (items.map trees)) := by
  have hForm := Form.ofTrees?_rooted "std" ["vec"] (punct "!" ++ brackets (itemTrees items)) rfl
  rw [← List.append_assoc] at hForm
  rw [trees, hForm, ← parts_itemTrees hItems]
  rfl

end Forms
end DataExpr
end FieldRules.Source
