import FieldRules.Message
import Mathlib.Data.List.Basic

/-!
# One pass over a template

A template is read from left to right as plain characters, closed slots, and at most one brace that is not closed and
takes all that follows it. Rendering replaces the slots that have the name of an argument and copies the rest. It never
reads a value that it put in.
-/
set_option autoImplicit false

namespace FieldRules.Message

inductive Piece where
  | char (c : Char)
  | slot (name : List Char)
  | unclosed (rest : List Char)

namespace Piece

def written : Piece → List Char
  | char c => [c]
  | slot name => '{' :: name ++ ['}']
  | unclosed rest => '{' :: rest

def filled (arguments : Arguments) : Piece → List Char
  | slot name => fill arguments name
  | piece => piece.written

end Piece

/-- A slot ends at the first closing brace; its name may hold opening ones. -/
inductive Scan : List Char → List Piece → Prop where
  | nil : Scan [] []
  | char {c : Char} {rest : List Char} {pieces : List Piece} (hPlain : c ≠ '{') (h : Scan rest pieces) :
    Scan (c :: rest) (.char c :: pieces)
  | slot {name rest : List Char} {pieces : List Piece} (hName : '}' ∉ name) (h : Scan rest pieces) :
    Scan ('{' :: (name ++ '}' :: rest)) (.slot name :: pieces)
  | unclosed {rest : List Char} (hRest : '}' ∉ rest) : Scan ('{' :: rest) [.unclosed rest]

def Closed (pieces : List Piece) : Prop :=
  ∀ rest, .unclosed rest ∉ pieces

theorem Closed.of_cons {piece : Piece} {pieces : List Piece} (h : Closed (piece :: pieces)) : Closed pieces := by
  intro rest hRest
  exact h rest (List.mem_cons_of_mem piece hRest)

theorem closed_slot (name : List Char) : Closed [.slot name] := by
  intro rest hRest
  cases List.mem_singleton.mp hRest

theorem exists_scan (template : List Char) : ∃ pieces, Scan template pieces := by
  match template with
  | [] => exact ⟨[], .nil⟩
  | c :: rest =>
    by_cases hBrace : c = '{'
    · subst hBrace
      by_cases hClosing : '}' ∈ rest
      · -- what is behind the first closing brace is shorter than the template
        obtain ⟨name, after, rfl, hName⟩ := List.eq_append_cons_of_mem hClosing
        obtain ⟨pieces, h⟩ := exists_scan after
        exact ⟨_, .slot hName h⟩
      · exact ⟨_, .unclosed hClosing⟩
    · obtain ⟨pieces, h⟩ := exists_scan rest
      exact ⟨_, .char hBrace h⟩
termination_by template.length

theorem name_unique {name name' rest rest' : List Char} (hName : '}' ∉ name) (hName' : '}' ∉ name')
    (h : name ++ '}' :: rest = name' ++ '}' :: rest') : name = name' ∧ rest = rest' := by
  induction name generalizing name' with
  | nil =>
    cases name' with
    | nil => exact ⟨rfl, (List.cons.inj h).2⟩
    | cons c name' =>
      obtain ⟨rfl, -⟩ := List.cons.inj h
      exact absurd List.mem_cons_self hName'
  | cons c name ih =>
    cases name' with
    | nil =>
      obtain ⟨rfl, -⟩ := List.cons.inj h
      exact absurd List.mem_cons_self hName
    | cons c' name' =>
      rw [List.mem_cons, not_or] at hName hName'
      obtain ⟨rfl, hRest⟩ := List.cons.inj h
      obtain ⟨rfl, rfl⟩ := ih hName.2 hName'.2 hRest
      exact ⟨rfl, rfl⟩

theorem renderFrom_name {name : List Char} (hName : '}' ∉ name) (arguments : Arguments) (read rest : List Char) :
    renderFrom arguments (some read) (name ++ rest) = renderFrom arguments (some (name.reverse ++ read)) rest := by
  induction name generalizing read with
  | nil => rfl
  | cons c name ih =>
    rw [List.mem_cons, not_or] at hName
    rw [List.cons_append, renderFrom, if_neg (Ne.symm hName.1), ih hName.2, List.reverse_cons, List.append_assoc]
    rfl

theorem renderFrom_slot {name : List Char} (hName : '}' ∉ name) (arguments : Arguments) (rest : List Char) :
    renderFrom arguments none ('{' :: (name ++ '}' :: rest)) =
      fill arguments name ++ renderFrom arguments none rest := by
  rw [renderFrom, if_pos rfl, renderFrom_name hName, renderFrom, if_pos rfl, List.append_nil, List.reverse_reverse]

theorem renderFrom_unclosed {rest : List Char} (hRest : '}' ∉ rest) (arguments : Arguments) :
    renderFrom arguments none ('{' :: rest) = '{' :: rest := by
  have hRead := renderFrom_name hRest arguments [] []
  rw [List.append_nil, List.append_nil, renderFrom, List.reverse_reverse] at hRead
  rw [renderFrom, if_pos rfl, hRead]

theorem fill_key {before after : Arguments} {key value : String} (h : ∀ argument ∈ before, argument.1 ≠ key) :
    fill (before ++ (key, value) :: after) key.toList = value.toList := by
  have hLookup : (before ++ (key, value) :: after).lookup key = some value :=
    List.lookup_eq_some_iff.mpr ⟨before, after, rfl, fun argument hArgument =>
      bne_iff_ne.mpr (Ne.symm (h argument hArgument))⟩
  rw [fill, String.ofList_toList, hLookup]

theorem Piece.filled_eq_written {arguments : Arguments} {piece : Piece}
    (h : ∀ argument ∈ arguments, slot argument.1.toList ≠ piece) : piece.filled arguments = piece.written := by
  cases piece with
  | char | unclosed => rfl
  | slot name =>
    have hLookup : arguments.lookup (String.ofList name) = none := by
      rw [List.lookup_eq_none_iff]
      intro argument hArgument
      rw [bne_iff_ne]
      intro hKey
      exact h argument hArgument (by rw [← hKey, String.toList_ofList])
    rw [filled, fill, hLookup]
    rfl

namespace Scan

variable {template : List Char} {pieces : List Piece}

theorem eq_of_eq {template' : List Char} {pieces' : List Piece} (h : Scan template pieces)
    (h' : Scan template' pieces') (hEq : template = template') : pieces = pieces' := by
  induction h generalizing template' pieces' with
  | nil =>
    cases h' with
    | nil => rfl
    | char | slot | unclosed => cases hEq
  | char hPlain _ ih =>
    cases h' with
    | nil => cases hEq
    | char _ h' =>
      obtain ⟨rfl, hRest⟩ := List.cons.inj hEq
      rw [ih h' hRest]
    | slot | unclosed => exact absurd (List.cons.inj hEq).1 hPlain
  | slot hName _ ih =>
    cases h' with
    | nil => cases hEq
    | char hPlain => exact absurd (List.cons.inj hEq).1.symm hPlain
    | slot hName' h' =>
      obtain ⟨rfl, hRest⟩ := name_unique hName hName' (List.cons.inj hEq).2
      rw [ih h' hRest]
    | unclosed hRest =>
      obtain ⟨-, rfl⟩ := List.cons.inj hEq
      exact absurd (List.mem_append_right _ List.mem_cons_self) hRest
  | unclosed hRest =>
    cases h' with
    | nil => cases hEq
    | char hPlain => exact absurd (List.cons.inj hEq).1.symm hPlain
    | slot =>
      obtain ⟨-, rfl⟩ := List.cons.inj hEq
      exact absurd (List.mem_append_right _ List.mem_cons_self) hRest
    | unclosed =>
      obtain ⟨-, rfl⟩ := List.cons.inj hEq
      rfl

theorem flatMap_written (h : Scan template pieces) : pieces.flatMap Piece.written = template := by
  induction h with
  | nil => rfl
  | char _ _ ih =>
    rw [List.flatMap_cons, ih]
    rfl
  | slot _ _ ih =>
    rw [List.flatMap_cons, ih, Piece.written, List.append_assoc]
    rfl
  | unclosed => exact List.append_nil _

theorem renderFrom_eq (h : Scan template pieces) (arguments : Arguments) :
    renderFrom arguments none template = pieces.flatMap (Piece.filled arguments) := by
  induction h with
  | nil => rfl
  | char hPlain _ ih =>
    rw [renderFrom, if_neg hPlain, ih]
    rfl
  | slot hName _ ih =>
    rw [renderFrom_slot hName, ih]
    rfl
  | unclosed hRest =>
    rw [renderFrom_unclosed hRest]
    exact (List.append_nil _).symm

theorem append {other : List Char} {others : List Piece} (h : Scan template pieces) (hClosed : Closed pieces)
    (hOther : Scan other others) : Scan (template ++ other) (pieces ++ others) := by
  induction h with
  | nil => exact hOther
  | char hPlain _ ih => exact .char hPlain (ih hClosed.of_cons)
  | slot hName _ ih =>
    have hAppended := Scan.slot hName (ih hClosed.of_cons)
    simpa using hAppended
  | unclosed => exact absurd List.mem_cons_self (hClosed _)

end Scan

section Rendered

variable {template : String} {pieces : List Piece} (h : Scan template.toList pieces) (arguments : Arguments)
include h

theorem toList_render : (render template arguments).toList = pieces.flatMap (Piece.filled arguments) := by
  rw [render, String.toList_ofList, h.renderFrom_eq]

theorem render_eq_self (hUnknown : ∀ argument ∈ arguments, Piece.slot argument.1.toList ∉ pieces) :
    render template arguments = template := by
  rw [← String.toList_inj, toList_render h, ← h.flatMap_written]
  apply List.flatMap_congr
  intro piece hPiece
  apply Piece.filled_eq_written
  rintro argument hArgument rfl
  exact hUnknown argument hArgument hPiece

theorem render_append (hClosed : Closed pieces) (other : String) :
    render (template ++ other) arguments = render template arguments ++ render other arguments := by
  obtain ⟨others, hOther⟩ := exists_scan other.toList
  have hAll : Scan (template ++ other).toList (pieces ++ others) := by
    rw [String.toList_append]
    exact h.append hClosed hOther
  rw [← String.toList_inj, String.toList_append, toList_render h, toList_render hOther, toList_render hAll,
    List.flatMap_append]

end Rendered

theorem scan_slot {key : String} (hKey : '}' ∉ key.toList) : Scan (slot key).toList [.slot key.toList] := by
  have hSlot : (slot key).toList = '{' :: (key.toList ++ '}' :: []) := by
    simp [slot]
  rw [hSlot]
  exact .slot hKey .nil

theorem render_slot {before after : Arguments} {key value : String} (hKey : '}' ∉ key.toList)
    (hFirst : ∀ argument ∈ before, argument.1 ≠ key) (other : String) :
    render (slot key ++ other) (before ++ (key, value) :: after) =
      value ++ render other (before ++ (key, value) :: after) := by
  have hValue : render (slot key) (before ++ (key, value) :: after) = value := by
    rw [← String.toList_inj, toList_render (scan_slot hKey), List.flatMap_singleton]
    exact fill_key hFirst
  rw [render_append (scan_slot hKey) _ (closed_slot key.toList), hValue]

/-- Every template is scanned in one way, and rendering goes through the pieces once. -/
theorem render_onePass (template : String) (arguments : Arguments) :
    ∃ pieces, Scan template.toList pieces ∧ (∀ others, Scan template.toList others → others = pieces) ∧
      pieces.flatMap Piece.written = template.toList ∧
      (render template arguments).toList = pieces.flatMap (Piece.filled arguments) ∧
      ((∀ argument ∈ arguments, Piece.slot argument.1.toList ∉ pieces) → render template arguments = template) ∧
      (Closed pieces →
        (∀ other, render (template ++ other) arguments = render template arguments ++ render other arguments) ∧
        ∀ before key value after other, arguments = before ++ (key, value) :: after →
          (∀ argument ∈ before, argument.1 ≠ key) → '}' ∉ key.toList →
          render (template ++ (slot key ++ other)) arguments =
            render template arguments ++ (value ++ render other arguments)) := by
  obtain ⟨pieces, h⟩ := exists_scan template.toList
  refine ⟨pieces, h, fun others hOthers => hOthers.eq_of_eq h rfl, h.flatMap_written, toList_render h arguments,
    render_eq_self h arguments, fun hClosed => ⟨render_append h arguments hClosed, ?_⟩⟩
  rintro before key value after other rfl hFirst hKey
  rw [render_append h _ hClosed, render_slot hKey hFirst]

/-- A name runs to the first closing brace, and a value with a slot in it is not read again. -/
example :
    render ("\x7d " ++ slot "\x7bvalue" ++ slot "other" ++ "\x7b")
        [("field", "Age"), ("\x7bvalue", slot "field")] =
      "\x7d " ++ slot "field" ++ slot "other" ++ "\x7b" := by
  decide

end FieldRules.Message
