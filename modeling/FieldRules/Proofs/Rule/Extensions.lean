import FieldRules.Proofs.Rule.Formats
import Mathlib

/-!
# Extensions of file names

The extension of a text stands behind its last dot. So the directories of a path do not count, except for a name whose
only dot is its first character: alone it has the extension behind the dot, and behind a separator it has none. Letters
count in any case, and dots at the start of a declared extension do not.
-/
set_option autoImplicit false

namespace FieldRules

namespace Text

/-- A character that is no letter is the small form of itself only. -/
theorem toLower_eq_iff {d : Char} (h : d.isAlpha = false) (c : Char) : c.toLower = d ↔ c = d := by
  have hSame {c : Char} (hOther : c.isAlpha = false) : c.toLower = c := by
    refine Char.toLower_eq_of_not_isUpper fun hUpper => ?_
    simp [Char.isAlpha, hUpper] at hOther
  constructor
  · rintro rfl
    rw [Char.isAlpha_toLower_eq_isAlpha] at h
    exact (hSame h).symm
  · rintro rfl
    exact hSame h

theorem mem_map_toLower_iff {d : Char} (h : d.isAlpha = false) (s : List Char) :
    d ∈ s.map Char.toLower ↔ d ∈ s := by
  simp only [List.mem_map, toLower_eq_iff h, exists_eq_right]

end Text

namespace Verdict

variable {extensions : List String} {s stem e name : List Char}

def IsFlat (s : List Char) : Prop :=
  ∀ c ∈ s, isSeparator c = false

def IsDotFile (name : List Char) : Prop :=
  ∃ e, name = '.' :: e ∧ '.' ∉ e

/-- One of the declared extensions, in any case. -/
def IsDeclared (extensions : List String) (e : List Char) : Prop :=
  ∃ declared ∈ extensions, (extensionName declared).toList.map Char.toLower = e.map Char.toLower

/-- The same declared extension, up to dots at its start and the case of letters. -/
def IsRespelling (declared declared' : String) : Prop :=
  ∃ (n n' : Nat) (e e' : List Char), declared.toList = List.replicate n '.' ++ e ∧
    declared'.toList = List.replicate n' '.' ++ e' ∧ e.map Char.toLower = e'.map Char.toLower

theorem isSeparator_toLower (c : Char) : isSeparator c.toLower = isSeparator c := by
  have hSlash := Text.toLower_eq_iff (by decide : '/'.isAlpha = false) c
  have hBackslash := Text.toLower_eq_iff (by decide : '\\'.isAlpha = false) c
  rw [Bool.eq_iff_iff]
  simp [isSeparator, hSlash, hBackslash]

theorem exists_lastDot (h : '.' ∈ s) : ∃ stem e, s = stem ++ '.' :: e ∧ '.' ∉ e := by
  obtain ⟨e, stem, hReverse, hDotless⟩ := List.eq_append_cons_of_mem (List.mem_reverse.mpr h)
  refine ⟨stem.reverse, e.reverse, ?_, by simpa using hDotless⟩
  simpa using congrArg List.reverse hReverse

theorem splitLastDot?_of_notMem (h : '.' ∉ s) : splitLastDot? s = none := by
  have hRest : s.reverse.dropWhile (· != '.') = [] :=
    (Text.dropWhile_eq_nil_iff _ _).mpr (List.all_eq_true.mpr fun c hc =>
      bne_iff_ne.mpr fun hEq => h (hEq ▸ List.mem_reverse.mp hc))
  rw [splitLastDot?, hRest]

theorem splitLastDot?_append (h : '.' ∉ e) (stem : List Char) :
    splitLastDot? (stem ++ '.' :: e) = some (stem, e) := by
  have hDotless : ∀ c ∈ e.reverse, (c != '.') = true :=
    fun c hc => bne_iff_ne.mpr fun hEq => h (hEq ▸ List.mem_reverse.mp hc)
  have hReverse : (stem ++ '.' :: e).reverse = e.reverse ++ '.' :: stem.reverse := by simp
  simp only [splitLastDot?, hReverse, List.takeWhile_append_of_pos hDotless,
    List.dropWhile_append_of_pos hDotless]
  simp

theorem hasExtension_of_notMem (h : '.' ∉ s) : hasExtension extensions s = false := by
  rw [hasExtension, splitLastDot?_of_notMem h]

theorem hasExtension_append_iff (h : '.' ∉ e) : hasExtension extensions (stem ++ '.' :: e) = true ↔
    e ≠ [] ∧ stem.getLast?.any isSeparator = false ∧ IsDeclared extensions e := by
  rw [hasExtension, splitLastDot?_append h]
  simp [Value.sameIgnoringCase, IsDeclared, and_assoc]

/-- A text has an extension if a declared one stands behind its last dot and no separator right before that dot. -/
theorem hasExtension_iff : hasExtension extensions s = true ↔ ∃ stem e, s = stem ++ '.' :: e ∧ '.' ∉ e ∧
    e ≠ [] ∧ stem.getLast?.any isSeparator = false ∧ IsDeclared extensions e := by
  constructor
  · intro h
    by_cases hDot : '.' ∈ s
    · obtain ⟨stem, e, rfl, hDotless⟩ := exists_lastDot hDot
      exact ⟨stem, e, rfl, hDotless, (hasExtension_append_iff hDotless).mp h⟩
    · rw [hasExtension_of_notMem hDot] at h
      cases h
  · rintro ⟨stem, e, rfl, hDotless, h⟩
    exact (hasExtension_append_iff hDotless).mpr h

/-! ## Names in directories -/

theorem IsDeclared.isFlat (hDeclared : ∀ declared ∈ extensions, IsFlat declared.toList)
    (h : IsDeclared extensions e) : IsFlat e := by
  obtain ⟨declared, hMem, hName⟩ := h
  intro c hc
  have hLower : c.toLower ∈ (extensionName declared).toList.map Char.toLower :=
    hName ▸ List.mem_map_of_mem hc
  obtain ⟨d, hd, hSame⟩ := List.mem_map.mp hLower
  have hDeclaredChar : d ∈ declared.toList := by
    rw [extensionName, String.toList_ofList] at hd
    exact (List.dropWhile_sublist _).mem hd
  rw [← isSeparator_toLower, ← hSame, isSeparator_toLower]
  exact hDeclared declared hMem d hDeclaredChar

theorem not_isDotFile_of_ne_nil (h : stem ≠ []) : ¬ IsDotFile (stem ++ '.' :: e) := by
  rintro ⟨rest, hName, hRest⟩
  obtain ⟨c, stem, rfl⟩ := List.exists_cons_of_ne_nil h
  obtain ⟨-, rfl⟩ := List.cons_eq_cons.mp hName
  simp at hRest

/-- Behind a separator, a name has the extension that it has alone, unless its only dot is its first character. -/
theorem hasExtension_path_iff (hDeclared : ∀ declared ∈ extensions, IsFlat declared.toList) {separator : Char}
    (hSeparator : isSeparator separator = true) (hName : IsFlat name) (dir : List Char) :
    hasExtension extensions (dir ++ separator :: name) = true ↔
      hasExtension extensions name = true ∧ ¬ IsDotFile name := by
  by_cases hDot : '.' ∈ name
  · obtain ⟨stem, e, rfl, hDotless⟩ := exists_lastDot hDot
    have hPath : dir ++ separator :: (stem ++ '.' :: e) = (dir ++ separator :: stem) ++ '.' :: e := by simp
    rw [hPath, hasExtension_append_iff hDotless, hasExtension_append_iff hDotless]
    by_cases hStem : stem = []
    · subst hStem
      refine iff_of_false ?_ fun h => h.2 ⟨e, rfl, hDotless⟩
      rintro ⟨-, hLast, -⟩
      rw [List.getLast?_concat, Option.any_some, hSeparator] at hLast
      cases hLast
    · have hLast : (dir ++ separator :: stem).getLast? = stem.getLast? := by
        rw [List.getLast?_append, List.getLast?_cons, List.getLast?_eq_some_getLast hStem]
        rfl
      rw [hLast, and_iff_left (not_isDotFile_of_ne_nil hStem)]
  · rw [hasExtension_of_notMem hDot]
    refine iff_of_false ?_ fun h => Bool.false_ne_true h.1
    -- a dot of the directory is followed by the separator, which no declared extension has
    rw [hasExtension_iff]
    rintro ⟨stem, e, hSplit, hDotless, -, -, hExtension⟩
    have hMem : separator ∈ e := by
      obtain ⟨middle, -, hRest⟩ | ⟨middle, -, hRest⟩ := List.append_eq_append_iff.mp hSplit
      · cases middle with
        | nil =>
          obtain ⟨rfl, -⟩ := List.cons_eq_cons.mp hRest
          cases hSeparator
        | cons c middle =>
          obtain ⟨-, hTail⟩ := List.cons_eq_cons.mp hRest
          exact absurd (hTail ▸ by simp) hDot
      · cases middle with
        | nil =>
          obtain ⟨rfl, -⟩ := List.cons_eq_cons.mp hRest
          cases hSeparator
        | cons c middle =>
          obtain ⟨-, rfl⟩ := List.cons_eq_cons.mp hRest
          simp
    have hFlat := hExtension.isFlat hDeclared separator hMem
    rw [hSeparator] at hFlat
    cases hFlat

/-! ## Letters in any case -/

theorem map_extensionName_of_isRespelling {declared declared' : String} (h : IsRespelling declared declared') :
    (extensionName declared).toList.map Char.toLower = (extensionName declared').toList.map Char.toLower := by
  have hName {declared : String} {n : Nat} {e : List Char} (h : declared.toList = List.replicate n '.' ++ e) :
      (extensionName declared).toList.map Char.toLower = (e.map Char.toLower).dropWhile (· == '.') := by
    have hDots : ∀ c ∈ List.replicate n '.', (c == '.') = true := fun c hc => by simp [List.eq_of_mem_replicate hc]
    have hLower : ((· == '.') ∘ Char.toLower) = (· == '.') := by
      funext c
      rw [Bool.eq_iff_iff, Function.comp_apply, beq_iff_eq, beq_iff_eq]
      exact Text.toLower_eq_iff (by decide) c
    rw [extensionName, String.toList_ofList, h, List.dropWhile_append_of_pos hDots, List.dropWhile_map, hLower]
  obtain ⟨n, n', e, e', hDeclared, hDeclared', hSame⟩ := h
  rw [hName hDeclared, hName hDeclared', hSame]

theorem IsDeclared.of_respelled {extensions' : List String} (h : IsDeclared extensions e)
    (hDeclared : List.Forall₂ IsRespelling extensions extensions') {e' : List Char}
    (hSame : e.map Char.toLower = e'.map Char.toLower) : IsDeclared extensions' e' := by
  obtain ⟨declared, hMem, hName⟩ := h
  induction hDeclared with
  | nil => cases hMem
  | @cons d d' rest rest' hFirst _ ih =>
    rcases List.mem_cons.mp hMem with rfl | hRest
    · refine ⟨d', List.mem_cons_self, ?_⟩
      rw [← map_extensionName_of_isRespelling hFirst, hName, hSame]
    · obtain ⟨declared', hMem', hName'⟩ := ih hRest
      exact ⟨declared', List.mem_cons_of_mem d' hMem', hName'⟩

theorem hasExtension_of_respelled {extensions' : List String} {s' : List Char}
    (hDeclared : List.Forall₂ IsRespelling extensions extensions')
    (hSame : s.map Char.toLower = s'.map Char.toLower) (h : hasExtension extensions s = true) :
    hasExtension extensions' s' = true := by
  obtain ⟨stem, e, rfl, hDotless, hSome, hStem, hExtension⟩ := hasExtension_iff.mp h
  rw [List.map_append, List.map_cons] at hSame
  obtain ⟨stem', rest, rfl, hStem', hRest⟩ := List.map_eq_append_iff.mp hSame.symm
  obtain ⟨dot, e', rfl, hDot, he'⟩ := List.map_eq_cons_iff.mp hRest
  obtain rfl := (Text.toLower_eq_iff (by decide) dot).mp hDot
  have hDotless' : '.' ∉ e' := by
    rwa [← Text.mem_map_toLower_iff (by decide), he', Text.mem_map_toLower_iff (by decide)]
  have hLast (t : List Char) : (t.map Char.toLower).getLast?.any isSeparator = t.getLast?.any isSeparator := by
    rw [List.getLast?_map, Option.any_map, funext isSeparator_toLower]
  rw [← hLast, ← hStem', hLast] at hStem
  refine hasExtension_iff.mpr ⟨stem', e', rfl, hDotless', ?_, hStem, hExtension.of_respelled hDeclared he'.symm⟩
  rintro rfl
  exact hSome (List.map_eq_nil_iff.mp he'.symm)

theorem IsRespelling.symm {declared declared' : String} (h : IsRespelling declared declared') :
    IsRespelling declared' declared := by
  obtain ⟨n, n', e, e', hDeclared, hDeclared', hSame⟩ := h
  exact ⟨n', n, e', e, hDeclared', hDeclared, hSame.symm⟩

theorem hasExtension_respelled {extensions' : List String} {s' : List Char}
    (hDeclared : List.Forall₂ IsRespelling extensions extensions')
    (hSame : s.map Char.toLower = s'.map Char.toLower) : hasExtension extensions s = hasExtension extensions' s' := by
  have hDeclared' := hDeclared.flip.imp fun _ _ h => IsRespelling.symm h
  rw [Bool.eq_iff_iff]
  exact ⟨hasExtension_of_respelled hDeclared hSame, hasExtension_of_respelled hDeclared' hSame.symm⟩

theorem presentText_of_holdsText {α : Type} [FieldValue α] {a : α} {text : String} (h : HoldsText a text)
    (hText : text ≠ "") : presentText a = some text := by
  simp [presentText, h.isNull, h.text?, hText]

theorem format_of_presentText {α : Type} [FieldValue α] {a : α} {text : String} (h : presentText a = some text)
    (test : List Char → Bool) : format test a = test text.toList := by
  rw [format, h]

end Verdict

namespace Rule

variable {α α' β : Type} [FieldValue α] [FieldValue α'] [FieldValue β]

/-- The rule on extensions accepts a path exactly if it accepts the name behind a separator alone and the name is no dot
file. So the directory makes no difference, except that it hides the extension of a dot file. The case of letters and
dots at the start of declared extensions never make a difference. -/
theorem holds_fileExtension_path {extensions : List String}
    (hDeclared : ∀ declared ∈ extensions, Verdict.IsFlat declared.toList) {dir name : String} {separator : Char}
    (hSeparator : Verdict.isSeparator separator = true) (hName : Verdict.IsFlat name.toList) {a : α} {a' : α'}
    (hPath : Verdict.presentText a = some (dir ++ String.singleton separator ++ name))
    (hAlone : Verdict.presentText a' = some name) (now : Instant) (sibling : β) :
    ((fileExtension extensions).holds now sibling a = true ↔
        (fileExtension extensions).holds now sibling a' = true ∧ ¬ Verdict.IsDotFile name.toList) ∧
      ((fileExtension extensions).holds now sibling a = (fileExtension extensions).holds now sibling a' ↔
        ¬ (Verdict.IsDotFile name.toList ∧ (fileExtension extensions).holds now sibling a' = true)) ∧
      ∀ {γ γ' : Type} [FieldValue γ] [FieldValue γ'] (c : γ) (c' : γ') (text text' : String)
        (extensions' : List String), Verdict.presentText c = some text → Verdict.presentText c' = some text' →
        Value.sameIgnoringCase text text' = true → List.Forall₂ Verdict.IsRespelling extensions extensions' →
        (fileExtension extensions).holds now sibling c = (fileExtension extensions').holds now sibling c' := by
  have hIff : (fileExtension extensions).holds now sibling a = true ↔
      (fileExtension extensions).holds now sibling a' = true ∧ ¬ Verdict.IsDotFile name.toList := by
    have hChars : (dir ++ String.singleton separator ++ name).toList = dir.toList ++ separator :: name.toList := by simp
    rw [holds, holds, Verdict.format_of_presentText hPath, Verdict.format_of_presentText hAlone, hChars]
    exact Verdict.hasExtension_path_iff hDeclared hSeparator hName dir.toList
  refine ⟨hIff, ?_, ?_⟩
  · rw [Bool.eq_iff_iff, hIff, and_iff_left_iff_imp, not_and']
  · intro γ γ' _ _ c c' text text' extensions' hText hText' hSame hRespelled
    rw [holds, holds, Verdict.format_of_presentText hText, Verdict.format_of_presentText hText']
    exact Verdict.hasExtension_respelled hRespelled (beq_iff_eq.mp hSame)

theorem holds_fileExtension_path_photo :
    (∀ declared ∈ ["..png", "jpg"], Verdict.IsFlat declared.toList) ∧ Verdict.isSeparator '/' = true ∧
      Verdict.IsFlat "Photo.PNG".toList ∧
      Verdict.presentText (Value.text "backup.jpg/Photo.PNG") =
        some ("backup.jpg" ++ String.singleton '/' ++ "Photo.PNG") ∧
      Verdict.presentText (some "Photo.PNG") = some "Photo.PNG" ∧
      (fileExtension ["..png", "jpg"]).passes .epoch none (.text "backup.jpg/Photo.PNG") = true := by
  have hDeclared : ∀ declared ∈ ["..png", "jpg"], Verdict.IsFlat declared.toList := by
    simp [Verdict.IsFlat, Verdict.isSeparator]
  have hName : Verdict.IsFlat "Photo.PNG".toList := by simp [Verdict.IsFlat, Verdict.isSeparator]
  have hPath : Verdict.presentText (Value.text "backup.jpg/Photo.PNG") =
      some ("backup.jpg" ++ String.singleton '/' ++ "Photo.PNG") :=
    Verdict.presentText_of_holdsText (Verdict.holdsText_dynamic _) (by simp)
  have hAlone : Verdict.presentText (some "Photo.PNG") = some "Photo.PNG" :=
    Verdict.presentText_of_holdsText (Verdict.holdsText_typed _).some (by simp)
  have hNotDotFile : ¬ Verdict.IsDotFile "Photo.PNG".toList := by
    rintro ⟨e, hEq, -⟩
    cases hEq
  obtain ⟨hIff, -, -⟩ :=
    holds_fileExtension_path hDeclared (by decide) hName hPath hAlone .epoch Value.null
  exact ⟨hDeclared, by decide, hName, hPath, hAlone, hIff.mpr ⟨by decide +kernel, hNotDotFile⟩⟩

/-- A dot file has an extension where it stands alone, and none in its directory. -/
theorem holds_fileExtension_dotFile :
    Verdict.IsFlat "png".toList ∧ Verdict.IsFlat ".png".toList ∧
      (fileExtension ["png"]).passes .epoch none (.text ".png") = true ∧
      (fileExtension ["png"]).passes .epoch none (.text "photos/.png") = false := by
  refine ⟨?_, ?_, by decide +kernel, by decide +kernel⟩
  · simp [Verdict.IsFlat, Verdict.isSeparator]
  · simp [Verdict.IsFlat, Verdict.isSeparator]

end Rule
end FieldRules
