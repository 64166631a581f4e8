import FieldRules.Text.Case
import FieldRules.Text.Blank
import Mathlib.Data.List.Nodup
import Mathlib.Data.List.Pairwise

/-!
# Sound case tables

The entries of the case tables, as sets of code points. A table is sound if each code point has one entry at most, and
if it maps nothing to what it maps further and neither from nor to white space. Sets are compared bit by bit, so that
whole tables can be checked.
-/
set_option autoImplicit false

namespace FieldRules.Text

def codeBits (codes : List Nat) : Nat :=
  codes.foldr (fun n bits => bits ||| 1 <<< n) 0

theorem testBit_codeBits (codes : List Nat) (n : Nat) : (codeBits codes).testBit n = decide (n ∈ codes) := by
  induction codes with
  | nil => simp [codeBits]
  | cons m rest ih =>
    change (codeBits rest ||| 1 <<< m).testBit n = _
    rw [Nat.testBit_or, ih, Nat.one_shiftLeft, Nat.testBit_two_pow]
    simp [Bool.or_comm, eq_comm]

/-- The bits of a set that is written in several lists, none of which is long enough to be a deep recursion. -/
def blockBits (blocks : List (List Nat)) : Nat :=
  blocks.foldr (fun codes bits => bits ||| codeBits codes) 0

theorem testBit_blockBits (blocks : List (List Nat)) (n : Nat) :
    (blockBits blocks).testBit n = decide (n ∈ blocks.flatten) := by
  induction blocks with
  | nil => simp [blockBits]
  | cons codes rest ih =>
    change (blockBits rest ||| codeBits codes).testBit n = _
    rw [Nat.testBit_or, ih, testBit_codeBits]
    simp [Bool.or_comm]

def areApart (first second : List (List Nat)) : Bool :=
  (blockBits first &&& blockBits second).beq 0

theorem notMem_of_areApart {first second : List (List Nat)} (h : areApart first second = true) {n : Nat}
    (hn : n ∈ first.flatten) : n ∉ second.flatten := by
  intro hBoth
  have hBit : (blockBits first &&& blockBits second).testBit n = true := by
    rw [Nat.testBit_and, testBit_blockBits, testBit_blockBits, decide_eq_true hn, decide_eq_true hBoth, Bool.and_true]
  rw [Nat.eq_of_beq_eq_true h, Nat.zero_testBit] at hBit
  cases hBit

def arePairwiseApart : List (List Nat) → Bool
  | [] => true
  | codes :: rest => areApart [codes] rest && arePairwiseApart rest

theorem pairwise_of_arePairwiseApart {blocks : List (List Nat)} (h : arePairwiseApart blocks = true) :
    blocks.Pairwise List.Disjoint := by
  induction blocks with
  | nil => exact .nil
  | cons codes rest ih =>
    rw [arePairwiseApart, Bool.and_eq_true] at h
    refine .cons (fun other hOther n hn hBoth => ?_) (ih h.2)
    exact notMem_of_areApart h.1 (by simpa using hn) (List.mem_flatten.mpr ⟨other, hOther, hBoth⟩)

theorem toNat_ofNat {n : Nat} (h : n.isValidChar) : (Char.ofNat n).toNat = n := by
  rw [Char.ofNat, dif_pos h]
  rfl

theorem toNat_ofNat_cases (n : Nat) : (Char.ofNat n).toNat = n ∨ (Char.ofNat n).toNat = 0 := by
  by_cases h : n.isValidChar
  · exact .inl (toNat_ofNat h)
  · rw [Char.ofNat, dif_neg h]
    exact .inr rfl

def blankCodes : List Nat :=
  List.range' 9 5 ++ [0x20, 0x85, 0xA0, 0x1680] ++ List.range' 0x2000 11 ++ [0x2028, 0x2029, 0x202F, 0x205F, 0x3000]

theorem isBlank_iff (c : Char) : isBlank c = true ↔ c.toNat ∈ blankCodes := by
  simp only [isBlank, blankCodes, List.mem_append, List.mem_range'_1, List.mem_cons, List.not_mem_nil, or_false,
    Bool.or_eq_true, Bool.and_eq_true, decide_eq_true_eq, beq_iff_eq]
  omega

namespace CaseRun

def codes (r : CaseRun) : List Nat :=
  if r.first ≤ r.last then List.range' r.first ((r.last - r.first) / r.step + 1) r.step else []

theorem mem_codes_iff {r : CaseRun} {n : Nat} : n ∈ r.codes ↔ r.contains n = true := by
  simp only [contains, Bool.and_eq_true, decide_eq_true_eq, beq_iff_eq, codes]
  constructor
  · intro h
    split at h
    · next hRun =>
      obtain ⟨k, hk, rfl⟩ := List.mem_range'.mp h
      have hSteps : r.step * k ≤ r.last - r.first :=
        Nat.le_trans (Nat.mul_le_mul_left r.step (Nat.lt_succ_iff.mp hk)) (Nat.mul_div_le ..)
      refine ⟨⟨by omega, by omega⟩, ?_⟩
      rw [Nat.add_sub_cancel_left, Nat.mul_mod_right]
    · cases h
  · rintro ⟨⟨hFirst, hLast⟩, hStep⟩
    rw [if_pos (Nat.le_trans hFirst hLast), List.mem_range']
    refine ⟨(n - r.first) / r.step, ?_, ?_⟩
    · exact Nat.lt_succ_of_le (Nat.div_le_div_right (by omega))
    · rw [Nat.mul_div_cancel' (Nat.dvd_of_mod_eq_zero hStep)]
      omega

def image (r : CaseRun) (n : Nat) : Nat :=
  ((n : Int) + r.offset).toNat

end CaseRun

section Entries

variable (runs : List CaseRun) (expansions : List (Nat × List Nat))

def mappedBlocks : List (List Nat) :=
  expansions.map Prod.fst :: runs.map CaseRun.codes

/-- The null character stands for what is no code point. -/
def imageBlocks : List (List Nat) :=
  [0] :: expansions.map Prod.snd ++ runs.map fun r => r.codes.map r.image

def mappedCodes : List Nat :=
  (mappedBlocks runs expansions).flatten

def imageCodes : List Nat :=
  (imageBlocks runs expansions).flatten

variable {runs expansions} {n : Nat}

theorem mem_mappedCodes_iff :
    n ∈ mappedCodes runs expansions ↔ n ∈ expansions.map Prod.fst ∨ ∃ r ∈ runs, n ∈ r.codes := by
  simp [mappedCodes, mappedBlocks]

theorem mem_imageCodes_iff : n ∈ imageCodes runs expansions ↔
    n = 0 ∨ (∃ codes ∈ expansions.map Prod.snd, n ∈ codes) ∨ ∃ r ∈ runs, ∃ m ∈ r.codes, r.image m = n := by
  simp [imageCodes, imageBlocks]

theorem lookup_of_notMem (h : n ∉ expansions.map Prod.fst) : expansions.lookup n = none := by
  rw [List.lookup_eq_none_iff]
  intro e he
  rw [bne_iff_ne]
  rintro rfl
  exact h (List.mem_map.mpr ⟨e, he, rfl⟩)

theorem mapCode_of_notMem (h : n ∉ mappedCodes runs expansions) : mapCode runs expansions n = [n] := by
  rw [mem_mappedCodes_iff, not_or] at h
  have hRun : runs.find? (·.contains n) = none := by
    rw [List.find?_eq_none]
    exact fun r hr hContains => h.2 ⟨r, hr, CaseRun.mem_codes_iff.mpr hContains⟩
  rw [mapCode, lookup_of_notMem h.1, hRun]

theorem mapCode_of_mem (h : n ∈ mappedCodes runs expansions) :
    (∃ codes, (n, codes) ∈ expansions ∧ mapCode runs expansions n = codes) ∨
      ∃ r ∈ runs, n ∈ r.codes ∧ mapCode runs expansions n = [r.image n] := by
  cases hExpansion : expansions.lookup n with
  | some codes =>
    obtain ⟨before, behind, rfl, -⟩ := List.lookup_eq_some_iff.mp hExpansion
    exact .inl ⟨codes, by simp, by rw [mapCode, hExpansion]⟩
  | none =>
    cases hRun : runs.find? (·.contains n) with
    | some r =>
      have hContains : r.contains n = true := List.find?_some (p := fun r : CaseRun => r.contains n) hRun
      refine .inr ⟨r, List.mem_of_find?_eq_some hRun, CaseRun.mem_codes_iff.mpr hContains, ?_⟩
      rw [mapCode, hExpansion, hRun]
      rfl
    | none =>
      rw [List.lookup_eq_none_iff] at hExpansion
      rw [List.find?_eq_none] at hRun
      rcases mem_mappedCodes_iff.mp h with hMem | ⟨r, hr, hn⟩
      · obtain ⟨e, he, rfl⟩ := List.mem_map.mp hMem
        exact absurd rfl (bne_iff_ne.mp (hExpansion e he))
      · exact absurd (CaseRun.mem_codes_iff.mp hn) (hRun r hr)

end Entries

structure IsSound (runs : List CaseRun) (expansions : List (Nat × List Nat)) : Prop where
  apart : (mappedBlocks runs expansions).Pairwise List.Disjoint
  settled : ∀ n ∈ mappedCodes runs expansions, n ∉ imageCodes runs expansions
  visible : ∀ n ∈ blankCodes, n ∉ mappedCodes runs expansions
  visible_images : ∀ n ∈ blankCodes, n ∉ imageCodes runs expansions
  valid : ∀ r ∈ runs, ∀ n ∈ r.codes, n.isValidChar
  expands : ∀ e ∈ expansions, e.2 ≠ []

/-- Whether a run reaches no surrogate and nothing beyond the last code point. -/
def CaseRun.isValid (r : CaseRun) : Bool :=
  r.last.blt 0xD800 || (Nat.blt 0xDFFF r.first && r.last.blt 0x110000)

theorem CaseRun.isValidChar_of_mem {r : CaseRun} (h : r.isValid = true) {n : Nat} (hn : n ∈ r.codes) :
    n.isValidChar := by
  simp only [mem_codes_iff, contains, Bool.and_eq_true, decide_eq_true_eq] at hn
  simp only [isValid, Bool.or_eq_true, Bool.and_eq_true, Nat.blt_eq] at h
  rw [Nat.isValidChar]
  omega

def tablePasses (runs : List CaseRun) (expansions : List (Nat × List Nat)) : Bool :=
  arePairwiseApart (mappedBlocks runs expansions) &&
    areApart (mappedBlocks runs expansions) (imageBlocks runs expansions) &&
    areApart [blankCodes] (mappedBlocks runs expansions) && areApart [blankCodes] (imageBlocks runs expansions) &&
    runs.all CaseRun.isValid && expansions.all fun e => !e.2.isEmpty

theorem isSound_of_tablePasses {runs : List CaseRun} {expansions : List (Nat × List Nat)}
    (h : tablePasses runs expansions = true) : IsSound runs expansions := by
  simp only [tablePasses, Bool.and_eq_true, List.all_eq_true, Bool.not_eq_true', List.isEmpty_eq_false_iff] at h
  obtain ⟨⟨⟨⟨⟨hApart, hSettled⟩, hVisible⟩, hImages⟩, hValid⟩, hExpands⟩ := h
  exact {
    apart := pairwise_of_arePairwiseApart hApart
    settled := fun _ => notMem_of_areApart hSettled
    visible := fun _ hn => notMem_of_areApart hVisible (by simpa using hn)
    visible_images := fun _ hn => notMem_of_areApart hImages (by simpa using hn)
    valid := fun r hr _ => CaseRun.isValidChar_of_mem (hValid r hr)
    expands := hExpands }

/-- Since it has no other entry, a code point of a run is mapped by the run. -/
theorem IsSound.mapCode_of_run {runs : List CaseRun} {expansions : List (Nat × List Nat)}
    (h : IsSound runs expansions) {r : CaseRun} (hr : r ∈ runs) {n : Nat} (hn : n ∈ r.codes) :
    mapCode runs expansions n = [r.image n] := by
  obtain ⟨hExpansions, hRuns⟩ := List.pairwise_cons.mp h.apart
  rcases mapCode_of_mem (mem_mappedCodes_iff.mpr (.inr ⟨r, hr, hn⟩)) with ⟨codes, hEntry, -⟩ | ⟨u, hu, hOther, hCode⟩
  · exact absurd hn (hExpansions _ (List.mem_map.mpr ⟨r, hr, rfl⟩) (List.mem_map.mpr ⟨_, hEntry, rfl⟩))
  · -- Another run would share the code point with this one.
    by_cases hSame : u = r
    · rw [hCode, hSame]
    · have : Std.Symm (Function.onFun List.Disjoint CaseRun.codes) := ⟨fun _ _ h => List.disjoint_symm h⟩
      exact absurd hn ((List.pairwise_map.mp hRuns).forall hu hr hSame hOther)

section Chars

variable {runs : List CaseRun} {expansions : List (Nat × List Nat)}

def mapChar (runs : List CaseRun) (expansions : List (Nat × List Nat)) (c : Char) : List Char :=
  (mapCode runs expansions c.toNat).map Char.ofNat

theorem mapChar_of_notMem {c : Char} (h : c.toNat ∉ mappedCodes runs expansions) :
    mapChar runs expansions c = [c] := by
  rw [mapChar, mapCode_of_notMem h, List.map_singleton, Char.ofNat_toNat]

theorem toNat_mem_imageCodes {codes : List Nat} (h : ∀ n ∈ codes, n ∈ imageCodes runs expansions) {d : Char}
    (hd : d ∈ codes.map Char.ofNat) : d.toNat ∈ imageCodes runs expansions := by
  obtain ⟨n, hn, rfl⟩ := List.mem_map.mp hd
  rcases toNat_ofNat_cases n with hSame | hNull
  · rw [hSame]
    exact h n hn
  · exact mem_imageCodes_iff.mpr (.inl hNull)

namespace IsSound

variable (h : IsSound runs expansions)
include h

theorem mapChar_of_mem {c : Char} (hc : c.toNat ∈ mappedCodes runs expansions) :
    mapChar runs expansions c ≠ [] ∧
      ∀ d ∈ mapChar runs expansions c, d.toNat ∈ imageCodes runs expansions := by
  rw [mapChar]
  rcases mapCode_of_mem hc with ⟨codes, hEntry, hCode⟩ | ⟨r, hr, hMem, hCode⟩
  · rw [hCode, Ne, List.map_eq_nil_iff]
    refine ⟨h.expands _ hEntry, fun d => toNat_mem_imageCodes fun n hn => ?_⟩
    exact mem_imageCodes_iff.mpr (.inr (.inl ⟨codes, List.mem_map.mpr ⟨_, hEntry, rfl⟩, hn⟩))
  · rw [hCode]
    refine ⟨List.cons_ne_nil _ _, fun d => toNat_mem_imageCodes fun n hn => ?_⟩
    rw [List.mem_singleton.mp hn]
    exact mem_imageCodes_iff.mpr (.inr (.inr ⟨r, hr, _, hMem, rfl⟩))

theorem mapChar_ne_nil (c : Char) : mapChar runs expansions c ≠ [] := by
  by_cases hc : c.toNat ∈ mappedCodes runs expansions
  · exact (h.mapChar_of_mem hc).1
  · rw [mapChar_of_notMem hc]
    exact List.cons_ne_nil c []

theorem notMem_of_mem_mapChar {c d : Char} (hd : d ∈ mapChar runs expansions c) :
    d.toNat ∉ mappedCodes runs expansions := by
  by_cases hc : c.toNat ∈ mappedCodes runs expansions
  · exact fun hMapped => h.settled _ hMapped ((h.mapChar_of_mem hc).2 d hd)
  · rw [mapChar_of_notMem hc, List.mem_singleton] at hd
    rwa [hd]

theorem mapChar_eq_self_iff {c : Char} :
    mapChar runs expansions c = [c] ↔ c.toNat ∉ mappedCodes runs expansions := by
  refine ⟨fun hSelf => h.notMem_of_mem_mapChar (c := c) ?_, mapChar_of_notMem⟩
  rw [hSelf]
  exact List.mem_singleton_self c

theorem mapChar_mapChar {c d : Char} (hd : d ∈ mapChar runs expansions c) : mapChar runs expansions d = [d] :=
  h.mapChar_eq_self_iff.mpr (h.notMem_of_mem_mapChar hd)

theorem isBlank_mapChar {c d : Char} (hd : d ∈ mapChar runs expansions c) : isBlank d = isBlank c := by
  by_cases hc : c.toNat ∈ mappedCodes runs expansions
  · have hFrom : isBlank c = false := by
      rw [← Bool.not_eq_true, isBlank_iff]
      exact fun hBlank => h.visible _ hBlank hc
    have hTo : isBlank d = false := by
      rw [← Bool.not_eq_true, isBlank_iff]
      exact fun hBlank => h.visible_images _ hBlank ((h.mapChar_of_mem hc).2 d hd)
    rw [hFrom, hTo]
  · rw [mapChar_of_notMem hc, List.mem_singleton] at hd
    rw [hd]

end IsSound
end Chars

/-! ## The two tables -/

namespace CaseRun

/-- Whether a run maps each image of another run back to where it is from. -/
def undoes (u r : CaseRun) : Bool :=
  (r.image r.last).ble u.last && u.contains (r.image r.first) && (r.first == r.last || r.step % u.step == 0) &&
    u.image (r.image r.first) == r.first && u.offset == -r.offset

theorem contains_of_undoes {u r : CaseRun} (h : u.undoes r = true) {n : Nat} (hn : r.contains n = true) :
    u.contains (r.image n) = true ∧ u.image (r.image n) = n := by
  simp only [undoes, contains, Bool.and_eq_true, Bool.or_eq_true, decide_eq_true_iff, beq_iff_eq,
    Nat.ble_eq] at h hn ⊢
  simp only [image] at h ⊢
  obtain ⟨⟨⟨⟨hLast, ⟨hFirst, -⟩, hStart⟩, hStep⟩, hBack⟩, hOffset⟩ := h
  obtain ⟨⟨hFrom, hTo⟩, hSteps⟩ := hn
  -- Nothing is cut off at zero, since the way back from the first image ends at the first code point.
  have hImage : ((n : Int) + r.offset).toNat = ((r.first : Int) + r.offset).toNat + (n - r.first) := by omega
  have hMultiple : (n - r.first) % u.step = 0 := by
    rcases hStep with hSingle | hStep
    · rw [show n - r.first = 0 by omega, Nat.zero_mod]
    · exact Nat.mod_eq_zero_of_dvd
        (Nat.dvd_trans (Nat.dvd_of_mod_eq_zero hStep) (Nat.dvd_of_mod_eq_zero hSteps))
  refine ⟨⟨by omega, ?_⟩, by omega⟩
  rw [hImage, Nat.sub_add_comm hFirst, Nat.add_mod, hStart, hMultiple, Nat.zero_add, Nat.zero_mod]

def only (r : CaseRun) (n : Nat) : CaseRun :=
  { r with first := n, last := n }

theorem contains_only (r : CaseRun) (n : Nat) : (r.only n).contains n = true := by
  simp [only, contains]

end CaseRun

open CaseTable

/-- Characters that upper case leaves alone, but that are not the upper case of their lower case. -/
def oddCapitals : List Char :=
  ['\u0130', '\u03F4', '\u1E9E', '\u2126', '\u212A', '\u212B']

def CaseRun.isUndone (r : CaseRun) : Bool :=
  (upperRuns.dropWhile fun u => u.last.blt (r.image r.last)).any (·.undoes r)

theorem tables_pass :
    (tablePasses upperRuns upperExpansions && tablePasses lowerRuns lowerExpansions &&
      areApart [oddCapitals.map Char.toNat] (imageBlocks upperRuns upperExpansions) &&
      lowerRuns.all fun r => r.isUndone || r.codes.all fun n =>
        (blockBits (mappedBlocks upperRuns upperExpansions)).testBit n ||
          (codeBits (oddCapitals.map Char.toNat)).testBit n || (r.only n).isUndone) = true := by
  decide +kernel

theorem upper_isSound : IsSound upperRuns upperExpansions := by
  have h := tables_pass
  simp only [Bool.and_eq_true] at h
  exact isSound_of_tablePasses h.1.1.1

theorem lower_isSound : IsSound lowerRuns lowerExpansions := by
  have h := tables_pass
  simp only [Bool.and_eq_true] at h
  exact isSound_of_tablePasses h.1.1.2

/-- Nothing has an odd capital as its upper case. -/
theorem oddCapital_notMem {c : Char} (hc : c ∈ oddCapitals) :
    c.toNat ∉ imageCodes upperRuns upperExpansions := by
  have h := tables_pass
  simp only [Bool.and_eq_true] at h
  exact notMem_of_areApart h.1.2 (by simpa using ⟨c, hc, rfl⟩)

/-- Upper case undoes what lower case does by a run, unless it has a say in it itself. -/
theorem mapCode_image {r : CaseRun} (hr : r ∈ lowerRuns) {n : Nat} (hn : n ∈ r.codes)
    (hMapped : n ∉ mappedCodes upperRuns upperExpansions) (hOdd : n ∉ oddCapitals.map Char.toNat) :
    mapCode upperRuns upperExpansions (r.image n) = [n] ∧ (r.image n).isValidChar := by
  have hUndone (q : CaseRun) (hq : q.isUndone = true) (hContains : q.contains n = true) :
      mapCode upperRuns upperExpansions (q.image n) = [n] ∧ (q.image n).isValidChar := by
    obtain ⟨u, hu, hBack⟩ := List.any_eq_true.mp hq
    obtain ⟨hImage, hSame⟩ := CaseRun.contains_of_undoes hBack hContains
    have hCodes := CaseRun.mem_codes_iff.mpr hImage
    have hRun : u ∈ upperRuns := (List.dropWhile_sublist _).subset hu
    rw [upper_isSound.mapCode_of_run hRun hCodes, hSame]
    exact ⟨rfl, upper_isSound.valid u hRun _ hCodes⟩
  have h := tables_pass
  simp only [Bool.and_eq_true, List.all_eq_true, Bool.or_eq_true, testBit_blockBits, testBit_codeBits,
    decide_eq_true_eq] at h
  -- A run of which upper case maps or leaves out a part is looked up one code point at a time.
  rcases h.2 r hr with hWhole | hEach
  · exact hUndone r hWhole (CaseRun.mem_codes_iff.mp hn)
  · rcases hEach n hn with (hUpper | hCapital) | hOnly
    · exact absurd hUpper hMapped
    · exact absurd hCapital hOdd
    · exact hUndone (r.only n) hOnly (r.contains_only n)

end FieldRules.Text
