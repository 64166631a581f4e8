import FieldRules.Text.Blank
import Mathlib.Data.List.DropRight

/-!
# Trimmed texts

Trimming loses no character but white space, and nothing is left to trim afterwards. A text whose characters are
replaced one by one, white space by white space and nothing else by it, stays trimmed and stays blank or not.
-/
set_option autoImplicit false

namespace FieldRules.Text

structure IsTrimmed (s : List Char) : Prop where
  start : trimStart s = s
  reverse : trimStart s.reverse = s.reverse

theorem IsTrimmed.trimChars_eq {s : List Char} (h : IsTrimmed s) : trimChars s = s := by
  have hEnd : trimEnd s = s.reverse.reverse := congrArg List.reverse h.reverse
  rw [trimChars, h.start, hEnd, List.reverse_reverse]

theorem isTrimmed_of_forall {s : List Char} (h : ∀ c ∈ s, isBlank c = false) : IsTrimmed s := by
  have hStart {t : List Char} (ht : ∀ c ∈ t, isBlank c = false) : trimStart t = t := by
    cases t with
    | nil => rfl
    | cons c t => simp [trimStart, ht c List.mem_cons_self]
  exact ⟨hStart h, hStart fun c hc => h c (List.mem_reverse.mp hc)⟩

theorem isBlank_eq_false_of_isDigit {c : Char} (hDigit : c.isDigit = true) : isBlank c = false := by
  simp only [Char.isDigit, Bool.and_eq_true, decide_eq_true_eq] at hDigit
  have hLow : 48 ≤ c.toNat := UInt32.le_iff_toNat_le.mp hDigit.1
  have hHigh : c.toNat ≤ 57 := UInt32.le_iff_toNat_le.mp hDigit.2
  simp only [isBlank, Bool.or_eq_false_iff, Bool.and_eq_false_iff, decide_eq_false_iff_not, beq_eq_false_iff_ne]
  omega

theorem trimStart_trimStart (s : List Char) : trimStart (trimStart s) = trimStart s :=
  List.dropWhile_idempotent isBlank s

theorem trimStart_of_prefix {s t : List Char} (hPrefix : t <+: s) (h : trimStart s = s) : trimStart t = t := by
  obtain ⟨rest, rfl⟩ := hPrefix
  rw [trimStart, List.dropWhile_eq_self_iff] at h ⊢
  intro hLength
  have hFirst := h (by rw [List.length_append]; omega)
  rwa [List.getElem_append_left hLength] at hFirst

theorem isTrimmed_trimChars (s : List Char) : IsTrimmed (trimChars s) where
  start := by
    refine trimStart_of_prefix ?_ (trimStart_trimStart s)
    rw [trimChars, trimEnd, ← List.reverse_suffix, List.reverse_reverse]
    exact List.dropWhile_suffix isBlank
  reverse := by
    rw [trimChars, trimEnd, List.reverse_reverse]
    exact trimStart_trimStart (trimStart s).reverse

theorem trimChars_sublist (s : List Char) : (trimChars s).Sublist s := by
  refine List.Sublist.trans ?_ (List.dropWhile_sublist isBlank)
  rw [← List.reverse_sublist, trimChars, trimEnd, List.reverse_reverse]
  exact List.dropWhile_sublist isBlank

theorem mem_trimStart {s : List Char} {c : Char} (hc : c ∈ s) (hBlank : isBlank c = false) : c ∈ trimStart s := by
  rw [← List.takeWhile_append_dropWhile (p := isBlank) (l := s), List.mem_append] at hc
  refine hc.resolve_left fun hTaken => ?_
  have := List.mem_takeWhile_imp hTaken
  rw [hBlank] at this
  cases this

theorem mem_trimChars {s : List Char} {c : Char} (hc : c ∈ s) (hBlank : isBlank c = false) : c ∈ trimChars s :=
  List.mem_reverse.mpr (mem_trimStart (List.mem_reverse.mpr (mem_trimStart hc hBlank)) hBlank)

theorem all_isBlank_trimChars (s : List Char) : (trimChars s).all isBlank = s.all isBlank := by
  rw [Bool.eq_iff_iff, List.all_eq_true, List.all_eq_true]
  constructor
  · intro h c hc
    by_contra hBlank
    rw [Bool.not_eq_true] at hBlank
    exact Bool.false_ne_true (hBlank.symm.trans (h c (mem_trimChars hc hBlank)))
  · exact fun h c hc => h c ((trimChars_sublist s).subset hc)

/-- Each character is replaced by one or more, and white space exactly by white space. -/
inductive Respells : List Char → List Char → Prop where
  | nil : Respells [] []
  | cons {c : Char} {spelled s t : List Char} (hSome : spelled ≠ [])
    (hBlank : ∀ d ∈ spelled, isBlank d = isBlank c) (h : Respells s t) : Respells (c :: s) (spelled ++ t)

namespace Respells

variable {s t : List Char}

theorem append {s' t' : List Char} (h : Respells s t) (h' : Respells s' t') : Respells (s ++ s') (t ++ t') := by
  induction h with
  | nil => exact h'
  | cons hSome hBlank _ ih =>
    rw [List.cons_append, List.append_assoc]
    exact .cons hSome hBlank ih

theorem reverse (h : Respells s t) : Respells s.reverse t.reverse := by
  induction h with
  | nil => exact .nil
  | @cons c spelled s t hSome hBlank _ ih =>
    have hLast : Respells [c] (spelled.reverse ++ []) :=
      .cons (by simpa using hSome) (fun d hd => hBlank d (List.mem_reverse.mp hd)) .nil
    rw [List.append_nil] at hLast
    rw [List.reverse_cons, List.reverse_append]
    exact ih.append hLast

theorem all_isBlank (h : Respells s t) : t.all isBlank = s.all isBlank := by
  induction h with
  | nil => rfl
  | @cons c spelled s t hSome hBlank _ ih =>
    have hSpelled : spelled.all isBlank = isBlank c := by
      obtain ⟨d, rest, rfl⟩ := List.exists_cons_of_ne_nil hSome
      rw [Bool.eq_iff_iff, List.all_eq_true]
      exact ⟨fun hAll => hBlank d List.mem_cons_self ▸ hAll d List.mem_cons_self, fun hc e he => (hBlank e he).trans hc⟩
    rw [List.all_append, List.all_cons, hSpelled, ih]

theorem trimStart_eq (h : Respells s t) (hs : trimStart s = s) : trimStart t = t := by
  cases h with
  | nil => rfl
  | @cons c spelled s t hSome hBlank _ =>
    obtain ⟨d, rest, rfl⟩ := List.exists_cons_of_ne_nil hSome
    rw [trimStart, List.dropWhile_eq_self_iff] at hs ⊢
    intro _
    rw [List.getElem_append_left (Nat.zero_lt_succ _), List.getElem_cons_zero, hBlank d List.mem_cons_self]
    exact hs (Nat.zero_lt_succ _)

theorem isTrimmed (h : Respells s t) (hs : IsTrimmed s) : IsTrimmed t where
  start := h.trimStart_eq hs.start
  reverse := h.reverse.trimStart_eq hs.reverse

end Respells
end FieldRules.Text
