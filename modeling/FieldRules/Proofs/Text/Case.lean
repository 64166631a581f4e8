import FieldRules.Proofs.Text.Blank
import FieldRules.Proofs.Text.Case.Table

/-!
# Upper and lower case again

Upper case leaves an upper case text alone, and lower case a lower case one. Upper and then lower case, taken twice, is
the same as once, final sigmas included, unless the text has a capital sharp s: its lower case is the small one, which
the second upper case spells with two letters.
-/
set_option autoImplicit false

namespace FieldRules.Text

open CaseTable

/-! ## Characters -/

theorem upperChar_ne_nil (c : Char) : upperChar c ≠ [] :=
  upper_isSound.mapChar_ne_nil c

theorem lowerChar_ne_nil (c : Char) : lowerChar c ≠ [] :=
  lower_isSound.mapChar_ne_nil c

theorem isBlank_upperChar {c d : Char} (h : d ∈ upperChar c) : isBlank d = isBlank c :=
  upper_isSound.isBlank_mapChar h

theorem isBlank_lowerChar {c d : Char} (h : d ∈ lowerChar c) : isBlank d = isBlank c :=
  lower_isSound.isBlank_mapChar h

theorem upperChar_upperChar {c d : Char} (h : d ∈ upperChar c) : upperChar d = [d] :=
  upper_isSound.mapChar_mapChar h

theorem lowerChar_lowerChar {c d : Char} (h : d ∈ lowerChar c) : lowerChar d = [d] :=
  lower_isSound.mapChar_mapChar h

theorem sigma_cases :
    lowerChar 'Σ' = ['σ'] ∧ (lowerChar 'σ' = ['σ'] ∧ upperChar 'σ' = ['Σ']) ∧
      lowerChar 'ς' = ['ς'] ∧ upperChar 'ς' = ['Σ'] := by
  decide +kernel

/-- Whatever its form, a small sigma is one in lower case and has the capital one as its upper case. -/
theorem small_sigma {c : Char} (h : c = 'σ' ∨ c = 'ς') :
    lowerChar c = [c] ∧ upperChar c = ['Σ'] ∧ isBlank c = isBlank 'Σ' := by
  obtain ⟨-, ⟨hLower, hUpper⟩, hLowerFinal, hUpperFinal⟩ := sigma_cases
  rcases h with rfl | rfl
  · exact ⟨hLower, hUpper, by decide⟩
  · exact ⟨hLowerFinal, hUpperFinal, by decide⟩

theorem mem_oddCapitals_of_toNat {c : Char} (h : c.toNat ∈ oddCapitals.map Char.toNat) : c ∈ oddCapitals := by
  obtain ⟨d, hd, hEq⟩ := List.mem_map.mp h
  rw [← Char.ofNat_toNat c, ← hEq, Char.ofNat_toNat]
  exact hd

/-- A character that is left alone by upper case is the upper case of its lower case, but for the odd ones. -/
theorem flatMap_upperChar_lowerChar {c : Char} (hUpper : upperChar c = [c]) (hOrdinary : c ∉ oddCapitals) :
    (lowerChar c).flatMap upperChar = [c] := by
  by_cases hc : c.toNat ∈ mappedCodes lowerRuns lowerExpansions
  · rcases mapCode_of_mem hc with ⟨codes, hEntry, -⟩ | ⟨r, hr, hMem, hCode⟩
    · have hDotted : c.toNat = 0x130 := by
        simpa [lowerExpansions] using congrArg Prod.fst (List.mem_singleton.mp hEntry)
      refine absurd (mem_oddCapitals_of_toNat ?_) hOrdinary
      rw [hDotted]
      decide
    · obtain ⟨hBack, hValid⟩ := mapCode_image hr hMem (upper_isSound.mapChar_eq_self_iff.mp hUpper)
        (mt mem_oddCapitals_of_toNat hOrdinary)
      rw [lowerChar, hCode, List.map_singleton, List.flatMap_singleton, upperChar, toNat_ofNat hValid, hBack,
        List.map_singleton, Char.ofNat_toNat]
  · rw [show lowerChar c = [c] from mapChar_of_notMem hc, List.flatMap_singleton, hUpper]

/-! ## Whole texts -/

theorem upperChars_of_upper {s : List Char} (h : ∀ c ∈ s, upperChar c = [c]) : upperChars s = s := by
  rw [upperChars, List.flatMap_congr h, List.flatMap_singleton']

theorem upperChar_of_mem {s : List Char} {d : Char} (h : d ∈ upperChars s) : upperChar d = [d] := by
  obtain ⟨c, -, hd⟩ := List.mem_flatMap.mp h
  exact upperChar_upperChar hd

theorem ne_sigma_of_lower {c : Char} (h : lowerChar c = [c]) : c ≠ 'Σ' := by
  rintro rfl
  rw [sigma_cases.1] at h
  exact absurd h (by decide)

theorem lowerFrom_of_lower {s : List Char} (h : ∀ c ∈ s, lowerChar c = [c]) (before : List Char) :
    lowerFrom before s = s := by
  induction s generalizing before with
  | nil => rfl
  | cons c rest ih =>
    have hc := h c List.mem_cons_self
    rw [lowerFrom, if_neg (by simpa using ne_sigma_of_lower hc), hc, ih fun d hd => h d (List.mem_cons_of_mem c hd)]
    rfl

theorem lowerFrom_cons (before : List Char) (c : Char) (rest : List Char) :
    ∃ lowered, lowerFrom before (c :: rest) = lowered ++ lowerFrom (c :: before) rest ∧
      (lowered = lowerChar c ∧ c ≠ 'Σ' ∨ c = 'Σ' ∧ ∃ d, lowered = [d] ∧ (d = 'σ' ∨ d = 'ς')) := by
  refine ⟨_, rfl, ?_⟩
  by_cases hSigma : c = 'Σ'
  · right
    refine ⟨hSigma, ?_⟩
    rw [if_pos (by simpa using hSigma)]
    split
    · exact ⟨_, rfl, .inr rfl⟩
    · exact ⟨_, rfl, .inl rfl⟩
  · exact .inl ⟨if_neg (by simpa using hSigma), hSigma⟩

theorem lowerChar_of_mem {before s : List Char} {d : Char} (h : d ∈ lowerFrom before s) : lowerChar d = [d] := by
  induction s generalizing before with
  | nil => cases h
  | cons c rest ih =>
    obtain ⟨lowered, hEq, hLowered⟩ := lowerFrom_cons before c rest
    rw [hEq] at h
    rcases List.mem_append.mp h with h | h
    · rcases hLowered with ⟨rfl, -⟩ | ⟨-, e, rfl, he⟩
      · exact lowerChar_lowerChar h
      · rw [List.mem_singleton.mp h]
        exact (small_sigma he).1
    · exact ih h

theorem respells_upperChars (s : List Char) : Respells s (upperChars s) := by
  induction s with
  | nil => exact .nil
  | cons c rest ih => exact .cons (upperChar_ne_nil c) (fun d hd => isBlank_upperChar hd) ih

theorem respells_lowerFrom (before s : List Char) : Respells s (lowerFrom before s) := by
  induction s generalizing before with
  | nil => exact .nil
  | cons c rest ih =>
    obtain ⟨lowered, hEq, hLowered⟩ := lowerFrom_cons before c rest
    rw [hEq]
    rcases hLowered with ⟨rfl, -⟩ | ⟨rfl, d, rfl, hd⟩
    · exact .cons (lowerChar_ne_nil c) (fun d hd => isBlank_lowerChar hd) (ih _)
    · refine .cons (List.cons_ne_nil d []) (fun e he => ?_) (ih _)
      rw [List.mem_singleton.mp he]
      exact (small_sigma hd).2.2

/-- Upper case does not see which form a small sigma has. -/
theorem upperChars_lowerFrom (before s : List Char) :
    upperChars (lowerFrom before s) = s.flatMap fun c => (lowerChar c).flatMap upperChar := by
  induction s generalizing before with
  | nil => rfl
  | cons c rest ih =>
    obtain ⟨lowered, hEq, hLowered⟩ := lowerFrom_cons before c rest
    have hHere : lowered.flatMap upperChar = (lowerChar c).flatMap upperChar := by
      rcases hLowered with ⟨rfl, -⟩ | ⟨rfl, d, rfl, hd⟩
      · rfl
      · rw [sigma_cases.1, List.flatMap_singleton, List.flatMap_singleton, (small_sigma hd).2.1,
          (small_sigma (.inl rfl)).2.1]
    have hRest := ih (c :: before)
    rw [upperChars] at hRest
    rw [hEq, upperChars, List.flatMap_append, hHere, hRest, List.flatMap_cons]

/-! ## The end of a word -/

theorem meetsCased_cons (c : Char) (rest : List Char) :
    meetsCased (c :: rest) = if isIgnorable c then meetsCased rest else isCased c := by
  rw [meetsCased, List.dropWhile_cons]
  cases isIgnorable c <;> rfl

theorem meetsCased_append {s : List Char} (h : meetsCased s = true) (rest : List Char) :
    meetsCased (s ++ rest) = true := by
  induction s with
  | nil => cases h
  | cons c s ih =>
    rw [meetsCased_cons] at h
    rw [List.cons_append, meetsCased_cons]
    split
    · next hIgnorable => exact ih (by rwa [if_pos hIgnorable] at h)
    · next hIgnorable => rwa [if_neg hIgnorable] at h

/-- A character in another spelling, which has the same lower case. It is no sigma, and it is seen as a cased one from
either side, as its spelling is. -/
structure Recased (c : Char) (spelled : List Char) : Prop where
  lower : spelled.flatMap lowerChar = lowerChar c
  sigma : 'Σ' ∉ spelled
  ne_sigma : c ≠ 'Σ'
  cased : meetsCased [c] = true
  start : meetsCased spelled = true
  reverse : meetsCased spelled.reverse = true

theorem meetsCased_flatMap {spell : Char → List Char} {s : List Char}
    (h : ∀ c ∈ s, spell c = [c] ∨ meetsCased [c] = true ∧ meetsCased (spell c) = true) :
    meetsCased (s.flatMap spell) = meetsCased s := by
  induction s with
  | nil => rfl
  | cons c rest ih =>
    have hRest := ih fun d hd => h d (List.mem_cons_of_mem c hd)
    rw [List.flatMap_cons]
    rcases h c List.mem_cons_self with hSame | ⟨hCased, hSpelled⟩
    · rw [hSame, List.singleton_append, meetsCased_cons, meetsCased_cons, hRest]
    · rw [meetsCased_append hSpelled, ← List.singleton_append, meetsCased_append hCased]

theorem lowerFrom_append {s : List Char} (h : 'Σ' ∉ s) (before rest : List Char) :
    lowerFrom before (s ++ rest) = s.flatMap lowerChar ++ lowerFrom (s.reverse ++ before) rest := by
  induction s generalizing before with
  | nil => rfl
  | cons c s ih =>
    rw [List.mem_cons, not_or] at h
    rw [List.cons_append, lowerFrom, if_neg (by simpa using Ne.symm h.1), ih h.2, List.flatMap_cons, List.append_assoc,
      List.reverse_cons, List.append_assoc, List.singleton_append]

/-- By induction on the text: a capital sigma stands in the same place of its word as before. -/
theorem lowerFrom_flatMap {spell : Char → List Char} {before s : List Char}
    (h : ∀ c ∈ before ++ s, spell c = [c] ∨ Recased c (spell c)) :
    lowerFrom (before.flatMap fun c => (spell c).reverse) (s.flatMap spell) = lowerFrom before s := by
  induction s generalizing before with
  | nil => rfl
  | cons c rest ih =>
    have hRest : lowerFrom ((c :: before).flatMap fun c => (spell c).reverse) (rest.flatMap spell) =
        lowerFrom (c :: before) rest :=
      ih fun d hd => h d (by simpa [or_left_comm] using hd)
    rw [List.flatMap_cons] at hRest
    rw [List.flatMap_cons]
    rcases h c (by simp) with hSame | hRecased
    · have hBefore : meetsCased (before.flatMap fun c => (spell c).reverse) = meetsCased before := by
        refine meetsCased_flatMap fun d hd => ?_
        refine (h d (by simp [hd])).imp (fun hSame => ?_) fun hRecased => ⟨hRecased.cased, hRecased.reverse⟩
        rw [hSame, List.reverse_singleton]
      have hBehind : meetsCased (rest.flatMap spell) = meetsCased rest :=
        meetsCased_flatMap fun d hd => (h d (by simp [hd])).imp_right fun hd => ⟨hd.cased, hd.start⟩
      rw [hSame, List.reverse_singleton, List.singleton_append] at hRest
      rw [hSame, List.singleton_append, lowerFrom, lowerFrom, hBefore, hBehind, hRest]
    · rw [lowerFrom_append hRecased.sigma, hRest, hRecased.lower, lowerFrom,
        if_neg (by simpa using hRecased.ne_sigma)]

theorem oddCapitals_cases : (oddCapitals.all fun c =>
    let spelled := (lowerChar c).flatMap upperChar
    c == '\u1E9E' || decide (spelled.flatMap lowerChar = lowerChar c ∧ 'Σ' ∉ spelled ∧ c ≠ 'Σ' ∧
      meetsCased [c] = true ∧ meetsCased spelled = true ∧ meetsCased spelled.reverse = true ∧
      'ß' ∉ lowerChar c)) = true := by
  decide +kernel

/-- All odd capitals but the sharp s differ from the upper case of their lower case only in how they are spelled. -/
theorem recased_oddCapitals {c : Char} (h : c ∈ oddCapitals) (hSharp : c ≠ '\u1E9E') :
    Recased c ((lowerChar c).flatMap upperChar) ∧ 'ß' ∉ lowerChar c := by
  have hCases := List.all_eq_true.mp oddCapitals_cases c h
  rw [Bool.or_eq_true, beq_iff_eq, decide_eq_true_iff] at hCases
  obtain ⟨hLower, hSigma, hNe, hCased, hStart, hEnd, hNot⟩ := hCases.resolve_left hSharp
  exact ⟨⟨hLower, hSigma, hNe, hCased, hStart, hEnd⟩, hNot⟩

/-- Back in upper case, a text in upper case may be spelled in another way, but its lower case is the same. -/
theorem lowerChars_upperChars_lowerChars {s : List Char} (hUpper : ∀ c ∈ s, upperChar c = [c])
    (hSharp : '\u1E9E' ∉ s) : lowerChars (upperChars (lowerChars s)) = lowerChars s := by
  have hSpelled (c : Char) (hc : c ∈ s) :
      (lowerChar c).flatMap upperChar = [c] ∨ Recased c ((lowerChar c).flatMap upperChar) := by
    by_cases hOdd : c ∈ oddCapitals
    · exact .inr (recased_oddCapitals hOdd fun hEq => hSharp (hEq ▸ hc)).1
    · exact .inl (flatMap_upperChar_lowerChar (hUpper c hc) hOdd)
  calc
    _ = lowerChars (s.flatMap fun c => (lowerChar c).flatMap upperChar) :=
      congrArg lowerChars (upperChars_lowerFrom [] s)
    _ = lowerChars s := @lowerFrom_flatMap _ [] s hSpelled

/-! ## Sharp s -/

theorem sharp_cases :
    '\u1E9E' ∈ upperChar '\u1E9E' ∧ lowerChar '\u1E9E' = ['ß'] ∧ 'S' ∈ upperChar 'ß' ∧ 'ß' ∉ lowerChar 'S' := by
  decide +kernel

/-- Upper case leaves a capital sharp s alone, and nothing else has it as its upper case. -/
theorem sharp_mem_upperChars {s : List Char} : '\u1E9E' ∈ upperChars s ↔ '\u1E9E' ∈ s := by
  constructor
  · intro h
    obtain ⟨c, hc, hSharp⟩ := List.mem_flatMap.mp h
    by_cases hMapped : c.toNat ∈ mappedCodes upperRuns upperExpansions
    · exact absurd ((upper_isSound.mapChar_of_mem hMapped).2 _ hSharp) (oddCapital_notMem (by decide))
    · rw [upperChar, ← mapChar, mapChar_of_notMem hMapped, List.mem_singleton] at hSharp
      rwa [hSharp]
  · intro h
    exact List.mem_flatMap.mpr ⟨_, h, sharp_cases.1⟩

theorem mem_lowerFrom {before s : List Char} {c d : Char} (hc : c ∈ s) (hSigma : c ≠ 'Σ') (hd : d ∈ lowerChar c) :
    d ∈ lowerFrom before s := by
  induction s generalizing before with
  | nil => cases hc
  | cons e rest ih =>
    obtain ⟨lowered, hEq, hLowered⟩ := lowerFrom_cons before e rest
    rw [hEq, List.mem_append]
    rcases List.mem_cons.mp hc with rfl | hc
    · rcases hLowered with ⟨rfl, -⟩ | ⟨rfl, -⟩
      · exact .inl hd
      · exact absurd rfl hSigma
    · exact .inr (ih hc)

theorem exists_of_mem_lowerFrom {before s : List Char} {d : Char} (h : d ∈ lowerFrom before s) :
    d = 'σ' ∨ d = 'ς' ∨ ∃ c ∈ s, d ∈ lowerChar c := by
  induction s generalizing before with
  | nil => cases h
  | cons c rest ih =>
    obtain ⟨lowered, hEq, hLowered⟩ := lowerFrom_cons before c rest
    rw [hEq, List.mem_append] at h
    rcases h with h | h
    · rcases hLowered with ⟨rfl, -⟩ | ⟨-, e, rfl, he⟩
      · exact .inr (.inr ⟨c, List.mem_cons_self, h⟩)
      · rw [← List.mem_singleton.mp h] at he
        exact he.imp_right .inl
    · exact (ih h).imp_right fun h => h.imp_right fun ⟨e, he, hd⟩ => ⟨e, List.mem_cons_of_mem c he, hd⟩

/-- In lower case, a text in upper case has a sharp s only for a capital one. -/
theorem sharp_mem_lowerChars {s : List Char} (hUpper : ∀ c ∈ s, upperChar c = [c]) :
    'ß' ∈ lowerChars s ↔ '\u1E9E' ∈ s := by
  constructor
  · intro h
    rcases exists_of_mem_lowerFrom h with hNot | hNot | ⟨c, hc, hSharp⟩
    · exact absurd hNot (by decide)
    · exact absurd hNot (by decide)
    · by_cases hOdd : c ∈ oddCapitals
      · by_contra hNone
        exact (recased_oddCapitals hOdd fun hEq => hNone (hEq ▸ hc)).2 hSharp
      · have hLetter : 'S' ∈ (lowerChar c).flatMap upperChar :=
          List.mem_flatMap.mpr ⟨_, hSharp, sharp_cases.2.2.1⟩
        rw [flatMap_upperChar_lowerChar (hUpper c hc) hOdd, List.mem_singleton] at hLetter
        rw [← hLetter] at hSharp
        exact absurd hSharp sharp_cases.2.2.2
  · exact fun h => mem_lowerFrom h (by decide) (by rw [sharp_cases.2.1]; exact List.mem_singleton_self _)

/-- What upper and then lower case leave is left by them once more, unless there was a capital sharp s. -/
theorem lowerChars_upperChars_iff (s : List Char) :
    lowerChars (upperChars (lowerChars (upperChars s))) = lowerChars (upperChars s) ↔ '\u1E9E' ∉ s := by
  have hUpper (t : List Char) : ∀ c ∈ upperChars t, upperChar c = [c] := fun c hc => upperChar_of_mem hc
  constructor
  · intro hSame hSharp
    have hSmall := (sharp_mem_lowerChars (hUpper s)).mpr (sharp_mem_upperChars.mpr hSharp)
    rw [← hSame] at hSmall
    -- The lower case text would have a capital sharp s.
    have hCapital := sharp_mem_upperChars.mp ((sharp_mem_lowerChars (hUpper _)).mp hSmall)
    have hSelf := lowerChar_of_mem hCapital
    rw [sharp_cases.2.1] at hSelf
    exact absurd hSelf (by decide)
  · exact fun hSharp => lowerChars_upperChars_lowerChars (hUpper s) (mt sharp_mem_upperChars.mp hSharp)

end FieldRules.Text
