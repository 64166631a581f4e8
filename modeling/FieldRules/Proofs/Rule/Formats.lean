import FieldRules.Rule.Verdict
import Mathlib.Data.List.Basic

/-!
# Formats of texts

A format rule accepts the empty text, and any other text by its characters. The address of an e-mail has the shape
`local@host.tld`; the dot that splits the domain can be any dot inside it.
-/
set_option autoImplicit false

namespace FieldRules

namespace Verdict

variable {α : Type} [FieldValue α] {a : α} {text : String}

/-- The content of a string field, dynamic or typed, with or without pointers and options around it. -/
structure HoldsText (a : α) (text : String) : Prop where
  isNull : FieldValue.isNull a = false
  text? : FieldValue.text? a = some text
  display? : FieldValue.display? a = some text

theorem holdsText_dynamic (text : String) : HoldsText (Value.text text) text :=
  ⟨rfl, rfl, rfl⟩

theorem holdsText_typed (text : String) : HoldsText text text :=
  ⟨rfl, rfl, rfl⟩

theorem HoldsText.some (h : HoldsText a text) : HoldsText (some a) text :=
  ⟨h.isNull, h.text?, h.display?⟩

theorem HoldsText.format_iff (h : HoldsText a text) (hText : text ≠ "") (test : List Char → Bool) :
    format test a = true ↔ test text.toList = true := by
  simp [format, presentText, h.isNull, h.text?, hText]

theorem HoldsText.format_empty (h : HoldsText a "") (test : List Char → Bool) : format test a = true := by
  simp [format, presentText, h.isNull, h.text?]

structure IsAddressPart (part : List Char) : Prop where
  ne_nil : part ≠ []
  chars : ∀ c ∈ part, c ≠ '@' ∧ Text.isBlank c = false

def IsAddress (s : List Char) : Prop :=
  ∃ name host tld, s = name ++ '@' :: (host ++ '.' :: tld) ∧
    IsAddressPart name ∧ IsAddressPart host ∧ IsAddressPart tld

/-- The shape of an address by its at signs, its white space and the places of its dots. -/
structure HasAddressShape (s : List Char) : Prop where
  oneAt : s.count '@' = 1
  noBlank : ∀ c ∈ s, Text.isBlank c = false
  innerDot : ∃ name domain, s = name ++ '@' :: domain ∧ name ≠ [] ∧
    ∃ i, 0 < i ∧ i + 1 < domain.length ∧ domain[i]? = Option.some '.'

def SplitsAtDot (domain : List Char) : Prop :=
  ∃ host tld, domain = host ++ '.' :: tld ∧ host ≠ [] ∧ tld ≠ []

theorem splitsAtDot_iff_mem (domain : List Char) : SplitsAtDot domain ↔ '.' ∈ (domain.drop 1).dropLast := by
  constructor
  · rintro ⟨host, tld, rfl, hHost, hTld⟩
    obtain ⟨c, host, rfl⟩ := List.exists_cons_of_ne_nil hHost
    simp [List.dropLast_append_of_ne_nil, List.dropLast_cons_of_ne_nil hTld]
  · intro h
    cases domain with
    | nil => cases h
    | cons c rest =>
      rw [List.drop_succ_cons, List.drop_zero] at h
      obtain ⟨before, after, hSplit⟩ := List.append_of_mem h
      have hRest : rest ≠ [] := by
        rintro rfl
        cases h
      -- the domain is its first character, the part in which the dot was found, and its last character
      have hWhole : rest = before ++ '.' :: after ++ [rest.getLast hRest] := by
        rw [← hSplit, List.dropLast_append_getLast]
      refine ⟨c :: before, after ++ [rest.getLast hRest], ?_, List.cons_ne_nil c before, by simp⟩
      simpa using hWhole

theorem splitsAtDot_iff_index (domain : List Char) :
    SplitsAtDot domain ↔ ∃ i, 0 < i ∧ i + 1 < domain.length ∧ domain[i]? = Option.some '.' := by
  constructor
  · rintro ⟨host, tld, rfl, hHost, hTld⟩
    have hHost := List.length_pos_iff.mpr hHost
    have hTld := List.length_pos_iff.mpr hTld
    refine ⟨host.length, hHost, ?_, by simp⟩
    simp only [List.length_append, List.length_cons]
    omega
  · rintro ⟨i, hFirst, hLast, hDot⟩
    obtain ⟨hBound, hDot⟩ := List.getElem?_eq_some_iff.mp hDot
    refine ⟨domain.take i, domain.drop (i + 1), ?_, ?_, ?_⟩
    · rw [← hDot, List.getElem_cons_drop, List.take_append_drop]
    · rw [← List.length_pos_iff, List.length_take]
      omega
    · rw [← List.length_pos_iff, List.length_drop]
      omega

theorem isAddressChar_iff (c : Char) : isAddressChar c = true ↔ c ≠ '@' ∧ Text.isBlank c = false := by
  simp [isAddressChar]

theorem forall_isAddressChar_iff (s : List Char) :
    (∀ c ∈ s, isAddressChar c = true) ↔ '@' ∉ s ∧ ∀ c ∈ s, Text.isBlank c = false := by
  simp only [isAddressChar_iff]
  constructor
  · exact fun h => ⟨fun hAt => (h '@' hAt).1 rfl, fun c hc => (h c hc).2⟩
  · exact fun h c hc => ⟨fun hEq => h.1 (hEq ▸ hc), h.2 c hc⟩

theorem count_at_iff (name domain : List Char) :
    (name ++ '@' :: domain).count '@' = 1 ↔ '@' ∉ name ++ domain := by
  rw [← List.count_eq_zero, List.count_append, List.count_append, List.count_cons_self]
  omega

theorem forall_isBlank_at_iff (name domain : List Char) :
    (∀ c ∈ name ++ '@' :: domain, Text.isBlank c = false) ↔ ∀ c ∈ name ++ domain, Text.isBlank c = false := by
  have hAt : Text.isBlank '@' = false := by decide
  simp only [List.forall_mem_append, List.forall_mem_cons, hAt, true_and]

theorem isEmail_split {name : List Char} (hName : '@' ∉ name) (domain : List Char) :
    isEmail (name ++ '@' :: domain) = true ↔
      name ≠ [] ∧ (∀ c ∈ name ++ domain, isAddressChar c = true) ∧ SplitsAtDot domain := by
  have hNoAt : ∀ c ∈ name, (c != '@') = true := fun c hc => bne_iff_ne.mpr fun hEq => hName (hEq ▸ hc)
  have hTake : (name ++ '@' :: domain).takeWhile (· != '@') = name := by
    rw [List.takeWhile_append_of_pos hNoAt]
    simp
  have hDrop : ((name ++ '@' :: domain).dropWhile (· != '@')).drop 1 = domain := by
    rw [List.dropWhile_append_of_pos hNoAt]
    simp
  rw [isEmail, hTake, hDrop, splitsAtDot_iff_mem, List.forall_mem_append]
  simp [and_assoc]

theorem not_isEmail {s : List Char} (hAt : '@' ∉ s) : isEmail s = false := by
  have hDrop : s.dropWhile (· != '@') = [] :=
    (Text.dropWhile_eq_nil_iff _ s).mpr (List.all_eq_true.mpr fun c hc => bne_iff_ne.mpr fun hEq => hAt (hEq ▸ hc))
  rw [isEmail, hDrop]
  exact Bool.and_false _

theorem isEmail_iff (s : List Char) : isEmail s = true ↔ ∃ name domain, s = name ++ '@' :: domain ∧
    name ≠ [] ∧ (∀ c ∈ name ++ domain, isAddressChar c = true) ∧ SplitsAtDot domain := by
  constructor
  · intro h
    by_cases hAt : '@' ∈ s
    · -- the name ends at the first at sign, and the domain is checked for another one
      obtain ⟨name, domain, rfl, hName⟩ := List.eq_append_cons_of_mem hAt
      exact ⟨name, domain, rfl, (isEmail_split hName domain).mp h⟩
    · rw [not_isEmail hAt] at h
      cases h
  · rintro ⟨name, domain, rfl, hSplit⟩
    have hName : '@' ∉ name := fun hAt =>
      ((isAddressChar_iff '@').mp (hSplit.2.1 '@' (List.mem_append_left domain hAt))).1 rfl
    exact (isEmail_split hName domain).mpr hSplit

theorem isEmail_iff_isAddress (s : List Char) : isEmail s = true ↔ IsAddress s := by
  rw [isEmail_iff]
  constructor
  · rintro ⟨name, domain, rfl, hName, hChars, host, tld, rfl, hHost, hTld⟩
    simp only [List.forall_mem_append, List.forall_mem_cons, isAddressChar_iff] at hChars
    exact ⟨name, host, tld, rfl, ⟨hName, hChars.1⟩, ⟨hHost, hChars.2.1⟩, ⟨hTld, hChars.2.2.2⟩⟩
  · rintro ⟨name, host, tld, rfl, hName, hHost, hTld⟩
    refine ⟨name, host ++ '.' :: tld, rfl, hName.ne_nil, ?_, host, tld, rfl, hHost.ne_nil, hTld.ne_nil⟩
    simp only [List.forall_mem_append, List.forall_mem_cons, isAddressChar_iff]
    exact ⟨hName.chars, hHost.chars, by decide, hTld.chars⟩

theorem isEmail_iff_hasAddressShape (s : List Char) : isEmail s = true ↔ HasAddressShape s := by
  rw [isEmail_iff]
  constructor
  · rintro ⟨name, domain, rfl, hName, hChars, hDot⟩
    obtain ⟨hNoAt, hNoBlank⟩ := (forall_isAddressChar_iff _).mp hChars
    exact ⟨(count_at_iff name domain).mpr hNoAt, (forall_isBlank_at_iff name domain).mpr hNoBlank,
      name, domain, rfl, hName, (splitsAtDot_iff_index domain).mp hDot⟩
  · rintro ⟨hOne, hNoBlank, name, domain, rfl, hName, hDot⟩
    have hChars := (forall_isAddressChar_iff _).mpr
      ⟨(count_at_iff name domain).mp hOne, (forall_isBlank_at_iff name domain).mp hNoBlank⟩
    exact ⟨name, domain, rfl, hName, hChars, (splitsAtDot_iff_index domain).mpr hDot⟩

end Verdict

namespace Rule

variable {α β : Type} [FieldValue α] [FieldValue β] {a : α} {text : String}

/-- The e-mail rule accepts a text that is empty or an address, and an address has one at sign, no white space, and a
dot inside its domain. -/
theorem holds_email_iff (h : Verdict.HoldsText a text) (now : Instant) (sibling : β) :
    (email.holds now sibling a = true ↔ text = "" ∨ Verdict.IsAddress text.toList) ∧
      (Verdict.IsAddress text.toList ↔ Verdict.HasAddressShape text.toList) := by
  refine ⟨?_, (Verdict.isEmail_iff_isAddress _).symm.trans (Verdict.isEmail_iff_hasAddressShape _)⟩
  by_cases hEmpty : text = ""
  · subst hEmpty
    exact iff_of_true (h.format_empty _) (.inl rfl)
  · rw [or_iff_right hEmpty, ← Verdict.isEmail_iff_isAddress]
    exact h.format_iff hEmpty _

/-- The dot at the start of the domain is no place to split it, the next one is. -/
theorem holds_email_iff_dots :
    Verdict.HoldsText (Value.text "ann@.example.org") "ann@.example.org" ∧
      email.passes .epoch none (.text "ann@.example.org") = true ∧
      Verdict.IsAddress "ann@.example.org".toList ∧ Verdict.HasAddressShape "ann@.example.org".toList := by
  have hText := Verdict.holdsText_dynamic "ann@.example.org"
  obtain ⟨hHolds, hShape⟩ := holds_email_iff hText .epoch Value.null
  have hPasses : email.passes .epoch none (.text "ann@.example.org") = true := by decide
  have hAddress := (hHolds.mp hPasses).resolve_left (by decide)
  exact ⟨hText, hPasses, hAddress, hShape.mp hAddress⟩

end Rule
end FieldRules
