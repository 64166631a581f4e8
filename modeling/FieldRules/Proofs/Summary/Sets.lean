import FieldRules.Proofs.Rule.Extensions
import FieldRules.Proofs.Summary.Gathered
import Mathlib.Data.List.Induction

/-!
# Sets in summaries

A field may carry several sets of allowed values and several sets of extensions, and a text has to be in all of
them. The summary cuts its list of values down from set to set, and begins it anew behind a set that leaves nothing
of it; the sets of extensions it joins. Every text that the rules admit is listed, and here is said for which
fields no other text is.
-/
set_option autoImplicit false

namespace FieldRules

namespace Verdict

variable {α : Type} [FieldValue α] {a : α} {text : String}

theorem HoldsText.allowedValues_iff (h : HoldsText a text) (values : List String) :
    allowedValues values a = true ↔ text ∈ values := by
  simp [allowedValues, h.isNull, h.display?]

/-- A name behind a dot: not empty, and without dots and separators of its own. -/
structure IsExtension (e : String) : Prop where
  ne_empty : e ≠ ""
  dotless : ∀ c ∈ e.toList, c ≠ '.'
  flat : ∀ c ∈ e.toList, isSeparator c = false

/-- The declared extensions as they are compared: without dots at their start, in small letters. -/
def extensionNames (extensions : List String) : List String :=
  extensions.map fun e => FieldSummary.lowered (extensionName e)

theorem sameIgnoringCase_iff (s t : String) :
    Value.sameIgnoringCase s t = true ↔ FieldSummary.lowered s = FieldSummary.lowered t := by
  rw [Value.sameIgnoringCase, FieldSummary.lowered, FieldSummary.lowered, ← String.toList_inj, beq_iff_eq,
    String.toList_map, String.toList_map]

theorem IsExtension.hasExtension_iff {e : String} (h : IsExtension e) (extensions : List String) :
    hasExtension extensions ("a." ++ e).toList = true ↔ FieldSummary.lowered e ∈ extensionNames extensions := by
  have hName : ("a." ++ e).toList = ['a'] ++ '.' :: e.toList := by simp
  have hNotEmpty : e.toList.isEmpty = false := by simpa using h.ne_empty
  have hStem : isSeparator 'a' = false := rfl
  rw [hasExtension, hName, splitLastDot?_append fun hDot => h.dotless '.' hDot rfl]
  simp [hNotEmpty, hStem, extensionNames, sameIgnoringCase_iff]

end Verdict

namespace Rule

def allowedValues? : Rule → Option (List String)
  | allowedValues values => some values
  | _ => none

def extensions? : Rule → Option (List String)
  | fileExtension extensions => some extensions
  | _ => none

variable {α β : Type} [FieldValue α] [FieldValue β] {now : Instant} {sibling : β} {a : α} {text : String}

theorem holds_allowedValues_iff (h : Verdict.HoldsText a text) (r : Rule) (values : List String)
    (hRule : r.allowedValues? = some values) : r.holds now sibling a = true ↔ text ∈ values := by
  cases r with
  | allowedValues own =>
    obtain rfl := Option.some.inj hRule
    exact h.allowedValues_iff own
  | _ => cases hRule

theorem holds_extensions_iff {e : String} (hExtension : Verdict.IsExtension e)
    (h : Verdict.HoldsText a ("a." ++ e)) (r : Rule) (extensions : List String)
    (hRule : r.extensions? = some extensions) : r.holds now sibling a = true ↔
      FieldSummary.lowered e ∈ Verdict.extensionNames extensions := by
  cases r with
  | fileExtension own =>
    obtain rfl := Option.some.inj hRule
    exact (h.format_iff (by simp) _).trans (hExtension.hasExtension_iff own)
  | _ => cases hRule

end Rule

namespace FieldDeclaration

variable (f : FieldDeclaration) (kind : Rule → Option (List String))

/-- The sets of those rules of a field that are of a kind, in order. -/
def sets : List (List String) :=
  f.constraints.filterMap fun c => kind c.rule

variable {α β : Type} [FieldValue α] [FieldValue β] (now : Instant) (sibling : β) (a : α)

/-- A content satisfies all constraints of a kind, whatever their groups. -/
def Satisfies : Prop :=
  ∀ c ∈ f.constraints, (kind c.rule).isSome → c.rule.holds now sibling a = true

variable {f kind now sibling a} {Admits : List String → Prop}
  (h : ∀ r set, kind r = some set → (r.holds now sibling a = true ↔ Admits set))

theorem sets_ne_nil_iff : f.sets kind ≠ [] ↔ ∃ c ∈ f.constraints, (kind c.rule).isSome := by
  simp [sets, List.filterMap_eq_nil_iff, Option.isSome_iff_ne_none]

include h

theorem satisfies_iff : f.Satisfies kind now sibling a ↔ ∀ set ∈ f.sets kind, Admits set := by
  constructor
  · intro hAll set hSet
    obtain ⟨c, hc, hKind⟩ := List.mem_filterMap.mp hSet
    exact (h c.rule set hKind).mp (hAll c hc (Option.isSome_of_eq_some hKind))
  · intro hAll c hc hKind
    obtain ⟨set, hSet⟩ := Option.isSome_iff_exists.mp hKind
    exact (h c.rule set hSet).mpr (hAll set (List.mem_filterMap.mpr ⟨c, hc, hSet⟩))

theorem exists_holds_iff : (∃ c ∈ f.constraints, (kind c.rule).isSome ∧ c.rule.holds now sibling a = true) ↔
    ∃ set ∈ f.sets kind, Admits set := by
  constructor
  · rintro ⟨c, hc, hKind, hHolds⟩
    obtain ⟨set, hSet⟩ := Option.isSome_iff_exists.mp hKind
    exact ⟨set, List.mem_filterMap.mpr ⟨c, hc, hSet⟩, (h c.rule set hSet).mp hHolds⟩
  · rintro ⟨set, hSet, hAdmits⟩
    obtain ⟨c, hc, hKind⟩ := List.mem_filterMap.mp hSet
    exact ⟨c, hc, Option.isSome_of_eq_some hKind, (h c.rule set hKind).mpr hAdmits⟩

end FieldDeclaration

/-! ## Allowed values -/

/-- How the list of a summary is cut down by a further set. -/
def narrowed (kept values : List String) : List String :=
  if kept.isEmpty then values else kept.filter values.contains

def ShareText (sets : List (List String)) : Prop :=
  ∃ text, ∀ values ∈ sets, text ∈ values

theorem shareText_nil : ShareText [] :=
  ⟨"", fun _ h => absurd h List.not_mem_nil⟩

theorem ShareText.of_subset {sets more : List (List String)} (h : ShareText more) (hSubset : sets ⊆ more) :
    ShareText sets := by
  obtain ⟨text, hText⟩ := h
  exact ⟨text, fun values hValues => hText values (hSubset hValues)⟩

/-- As long as the sets before a set share a text, the list holds what all sets share. -/
theorem mem_foldl_narrowed_iff {sets : List (List String)} (hSets : sets ≠ []) (h : ShareText sets.dropLast)
    (text : String) : text ∈ sets.foldl narrowed [] ↔ ∀ values ∈ sets, text ∈ values := by
  induction sets using List.reverseRecOn generalizing text with
  | nil => exact absurd rfl hSets
  | append_singleton earlier values ih =>
    rw [List.dropLast_concat] at h
    rw [List.foldl_concat, List.forall_mem_append, List.forall_mem_singleton]
    by_cases hFirst : earlier = []
    · subst hFirst
      simp [narrowed]
    · have hEarlier := ih hFirst (h.of_subset (List.dropLast_subset earlier))
      -- the shared text is in the list, so the set does not begin it anew
      have hKept : earlier.foldl narrowed [] ≠ [] := by
        obtain ⟨shared, hShared⟩ := h
        exact List.ne_nil_of_mem ((hEarlier shared).mpr hShared)
      simp [narrowed, hKept, hEarlier]

theorem foldl_narrowed_eq_nil {run : List (List String)} (hNone : ¬ ShareText run)
    (hShare : ShareText run.dropLast) : run.foldl narrowed [] = [] := by
  have hRun : run ≠ [] := by
    rintro rfl
    exact hNone shareText_nil
  refine List.eq_nil_iff_forall_not_mem.mpr fun text hText => ?_
  exact hNone ⟨text, (mem_foldl_narrowed_iff hRun hShare text).mp hText⟩

/-- Sets cut into runs: a run is spent with the first set that leaves it without a shared text. -/
structure CutInto (sets : List (List String)) (spent : List (List (List String))) (last : List (List String)) :
    Prop where
  eq : sets = spent.flatten ++ last
  spent : ∀ run ∈ spent, ¬ ShareText run ∧ ShareText run.dropLast
  last : ShareText last

theorem exists_cutInto (sets : List (List String)) : ∃ spent last, CutInto sets spent last := by
  induction sets using List.reverseRecOn with
  | nil => exact ⟨[], [], rfl, fun _ h => absurd h List.not_mem_nil, shareText_nil⟩
  | append_singleton sets values ih =>
    obtain ⟨spent, last, rfl, hSpent, hLast⟩ := ih
    by_cases hShare : ShareText (last ++ [values])
    · exact ⟨spent, last ++ [values], List.append_assoc .., hSpent, hShare⟩
    · refine ⟨spent ++ [last ++ [values]], [], by simp, ?_, shareText_nil⟩
      intro run hRun
      rcases List.mem_append.mp hRun with hRun | hRun
      · exact hSpent run hRun
      · obtain rfl := List.mem_singleton.mp hRun
        exact ⟨hShare, by rwa [List.dropLast_concat]⟩

namespace CutInto

variable {sets : List (List String)} {spent : List (List (List String))} {last : List (List String)}
  (h : CutInto sets spent last)

include h

theorem foldl_narrowed : sets.foldl narrowed [] = last.foldl narrowed [] := by
  obtain ⟨rfl, hSpent, -⟩ := h
  induction spent with
  | nil => rfl
  | cons run rest ih =>
    obtain ⟨⟨hNone, hShare⟩, hRest⟩ := List.forall_mem_cons.mp hSpent
    rw [List.flatten_cons, List.append_assoc, List.foldl_append, foldl_narrowed_eq_nil hNone hShare]
    exact ih hRest

theorem mem_foldl_iff (text : String) :
    text ∈ sets.foldl narrowed [] ↔ last ≠ [] ∧ ∀ values ∈ last, text ∈ values := by
  rw [h.foldl_narrowed]
  by_cases hLast : last = []
  · simp [hLast]
  · have hBefore : ShareText last.dropLast := h.last.of_subset (List.dropLast_subset last)
    rw [mem_foldl_narrowed_iff hLast hBefore]
    exact (and_iff_right hLast).symm

theorem spent_eq_nil {text : String} (hText : ∀ values ∈ sets, text ∈ values) : spent = [] := by
  refine List.eq_nil_iff_forall_not_mem.mpr fun run hRun => (h.spent run hRun).1 ⟨text, ?_⟩
  intro values hValues
  refine hText values ?_
  rw [h.eq]
  exact List.mem_append_left _ (List.mem_flatten_of_mem hRun hValues)

variable (hSets : sets ≠ [])

include hSets

theorem mem_foldl_of_shared {text : String} (hText : ∀ values ∈ sets, text ∈ values) :
    text ∈ sets.foldl narrowed [] := by
  have hEq : sets = last := by simpa [h.spent_eq_nil hText] using h.eq
  rw [h.mem_foldl_iff, ← hEq]
  exact ⟨hSets, hText⟩

/-- The list holds no more than what all sets share if the first run has not ended, or the last one has just
ended. -/
theorem foldl_exact_iff : (∀ text, text ∈ sets.foldl narrowed [] ↔ ∀ values ∈ sets, text ∈ values) ↔
    spent = [] ∨ last = [] := by
  constructor
  · intro hExact
    by_cases hLast : last = []
    · exact .inr hLast
    · obtain ⟨shared, hShared⟩ := h.last
      have hAll := (hExact shared).mp ((h.mem_foldl_iff shared).mpr ⟨hLast, hShared⟩)
      exact .inl (h.spent_eq_nil hAll)
  · intro hOne text
    refine ⟨?_, h.mem_foldl_of_shared hSets⟩
    intro hText
    obtain ⟨hLast, hAll⟩ := (h.mem_foldl_iff text).mp hText
    have hEq : sets = last := by simpa [hOne.resolve_right hLast] using h.eq
    rwa [hEq]

end CutInto

namespace FieldSummary

variable (s : FieldSummary) (f : FieldDeclaration)

/-- A text is listed if and only if every string field that holds it satisfies the constraints on its values. -/
def ExactValues : Prop :=
  ∀ {α β : Type} [FieldValue α] [FieldValue β] (now : Instant) (sibling : β) (a : α) (text : String),
    Verdict.HoldsText a text → (text ∈ s.allowedValues ↔ f.Satisfies Rule.allowedValues? now sibling a)

/-- What is listed are the texts that the sets of the last run share, and it is exact if no other run came before
or no set came behind the runs that are spent. -/
structure ListsValues (spent : List (List (List String))) (last : List (List String)) : Prop where
  cut : CutInto (f.sets Rule.allowedValues?) spent last
  mem_iff : ∀ text, text ∈ s.allowedValues ↔ last ≠ [] ∧ ∀ values ∈ last, text ∈ values
  of_satisfies : ∀ {α β : Type} [FieldValue α] [FieldValue β] (now : Instant) (sibling : β) (a : α)
    (text : String), Verdict.HoldsText a text → f.Satisfies Rule.allowedValues? now sibling a →
      text ∈ s.allowedValues
  exact_iff : s.ExactValues f ↔ spent = [] ∨ last = []

theorem allowedValues_absorbConstraint (c : Constraint) : (s.absorbConstraint c).allowedValues =
    c.rule.allowedValues?.toList.foldl narrowed s.allowedValues := by
  rw [absorbConstraint_eq]
  cases c.rule <;> rfl

theorem allowedValues_foldl (p : PlannedField) :
    (f.constraints.foldl absorbConstraint (ofPlanned p)).allowedValues =
      (f.sets Rule.allowedValues?).foldl narrowed [] :=
  foldl_gathers allowedValues_absorbConstraint _ _

theorem listsValues_foldl {f : FieldDeclaration} (p : PlannedField) (hSets : f.sets Rule.allowedValues? ≠ [])
    {spent : List (List (List String))} {last : List (List String)}
    (hCut : CutInto (f.sets Rule.allowedValues?) spent last) :
    (f.constraints.foldl absorbConstraint (ofPlanned p)).ListsValues f spent last where
  cut := hCut
  mem_iff := by
    rw [allowedValues_foldl]
    exact hCut.mem_foldl_iff
  of_satisfies now sibling a text hText hAll := by
    rw [allowedValues_foldl]
    exact hCut.mem_foldl_of_shared hSets ((f.satisfies_iff (Rule.holds_allowedValues_iff hText)).mp hAll)
  exact_iff := by
    rw [← hCut.foldl_exact_iff hSets, ← allowedValues_foldl f p]
    constructor
    · intro hExact text
      have hText := Verdict.holdsText_dynamic text
      rw [hExact .epoch Value.null _ text hText, FieldDeclaration.satisfies_iff (Rule.holds_allowedValues_iff hText)]
    · intro hExact α β _ _ now sibling a text hText
      rw [hExact text, FieldDeclaration.satisfies_iff (Rule.holds_allowedValues_iff hText)]

end FieldSummary

theorem Summary.ofPlan_listsValues {d : ModelDeclaration} {f : FieldDeclaration} {index : Nat}
    (hField : d.fields[index]? = some f) (hSome : ∃ c ∈ f.constraints, c.rule.allowedValues?.isSome) :
    ∃ s spent last, (ofPlan (.ofDeclaration d)).fields[index]? = some s ∧ s.ListsValues f spent last := by
  obtain ⟨spent, last, hCut⟩ := exists_cutInto (f.sets Rule.allowedValues?)
  refine ⟨_, spent, last, by rw [getElem?_fields_ofPlan, hField, Option.map_some], ?_⟩
  exact FieldSummary.listsValues_foldl f.planned (FieldDeclaration.sets_ne_nil_iff.mpr hSome) hCut

namespace Palette

def color : FieldDeclaration :=
  { name := "color"
    fieldType := .string
    constraints :=
      [{ rule := .allowedValues ["red", "green"] },
       { rule := .required },
       { rule := .allowedValues ["green", "blue"], group := some "print" },
       { rule := .allowedValues ["white"] },
       { rule := .allowedValues ["black", "grey"] }] }

def declaration : ModelDeclaration :=
  { name := "Palette", fields := [color] }

end Palette

theorem Summary.ofPlan_listsValues_palette :
    Palette.declaration.fields[0]? = some Palette.color ∧
    (∃ c ∈ Palette.color.constraints, c.rule.allowedValues?.isSome) ∧
    ∃ s spent last, (ofPlan (.ofDeclaration Palette.declaration)).fields[0]? = some s ∧
      s.ListsValues Palette.color spent last :=
  have hSome : ∃ c ∈ Palette.color.constraints, c.rule.allowedValues?.isSome = true := by decide
  ⟨rfl, hSome, ofPlan_listsValues rfl hSome⟩

/-- The third set leaves nothing of the list, so the fourth one is listed as if it stood alone, although no color
is in all of the sets. -/
theorem Summary.ofPlan_restarted : Palette.declaration.isAccepted = true ∧
    ∃ s, (ofPlan (.ofDeclaration Palette.declaration)).fields = [s] ∧ s.allowedValues = ["black", "grey"] ∧
      ¬ s.ExactValues Palette.color := by
  refine ⟨by decide +kernel, _, Summary.fields_ofPlan Palette.declaration, by decide +kernel, ?_⟩
  intro hExact
  have hListed := hExact .epoch Value.null _ "grey" (Verdict.holdsText_dynamic "grey")
  have hFirst := hListed.mp (by decide +kernel) { rule := .allowedValues ["red", "green"] } (by decide) rfl
  revert hFirst
  decide +kernel

/-! ## Extensions -/

namespace FieldSummary

variable (s : FieldSummary) (f : FieldDeclaration)

/-- An extension is listed in small letters if and only if every string field that holds the name of a file with
this extension satisfies the constraints on extensions. -/
def ExactExtensions : Prop :=
  ∀ {α β : Type} [FieldValue α] [FieldValue β] (now : Instant) (sibling : β) (a : α) (e : String),
    Verdict.IsExtension e → Verdict.HoldsText a ("a." ++ e) →
      (lowered e ∈ s.fileExtensions ↔ f.Satisfies Rule.extensions? now sibling a)

/-- What is listed are the extensions that one of the sets has, and it is exact if no set has an extension that
another one has not. -/
structure ListsExtensions : Prop where
  listsFirst : ListsFirst s.fileExtensions ((f.sets Rule.extensions?).flatMap Verdict.extensionNames)
  mem_iff : ∀ {α β : Type} [FieldValue α] [FieldValue β] (now : Instant) (sibling : β) (a : α) (e : String),
    Verdict.IsExtension e → Verdict.HoldsText a ("a." ++ e) → (lowered e ∈ s.fileExtensions ↔
      ∃ c ∈ f.constraints, c.rule.extensions?.isSome ∧ c.rule.holds now sibling a = true)
  exact_iff : s.ExactExtensions f ↔
    ∀ set ∈ f.sets Rule.extensions?, ∀ other ∈ f.sets Rule.extensions?, ∀ e, Verdict.IsExtension e →
      lowered e ∈ Verdict.extensionNames set → lowered e ∈ Verdict.extensionNames other

theorem fileExtensions_absorbConstraint (c : Constraint) : (s.absorbConstraint c).fileExtensions =
    c.rule.extensions?.toList.foldl (fun kept set => (Verdict.extensionNames set).foldl addNew kept)
      s.fileExtensions := by
  rw [absorbConstraint_eq]
  cases c.rule <;> rfl

theorem fileExtensions_foldl (p : PlannedField) :
    (f.constraints.foldl absorbConstraint (ofPlanned p)).fileExtensions =
      ((f.sets Rule.extensions?).flatMap Verdict.extensionNames).foldl addNew [] := by
  rw [foldl_gathers fileExtensions_absorbConstraint, List.foldl_flatMap]
  rfl

theorem listsExtensions_foldl {f : FieldDeclaration} (p : PlannedField) (hSets : f.sets Rule.extensions? ≠ []) :
    (f.constraints.foldl absorbConstraint (ofPlanned p)).ListsExtensions f := by
  have hFirst : ListsFirst (f.constraints.foldl absorbConstraint (ofPlanned p)).fileExtensions
      ((f.sets Rule.extensions?).flatMap Verdict.extensionNames) := by
    rw [fileExtensions_foldl]
    exact ListsFirst.nil.foldl_addNew _
  have hListed (e : String) : lowered e ∈ (f.constraints.foldl absorbConstraint (ofPlanned p)).fileExtensions ↔
      ∃ set ∈ f.sets Rule.extensions?, lowered e ∈ Verdict.extensionNames set := by
    rw [hFirst.mem_iff, List.mem_flatMap]
  refine ⟨hFirst, ?_, ?_⟩
  · intro α β _ _ now sibling a e he hText
    rw [hListed, FieldDeclaration.exists_holds_iff (Rule.holds_extensions_iff he hText)]
  · constructor
    · intro hExact set hSet other hOther e he hMem
      have hText := Verdict.holdsText_dynamic ("a." ++ e)
      have hAll := (hExact .epoch Value.null _ e he hText).mp ((hListed e).mpr ⟨set, hSet, hMem⟩)
      exact (FieldDeclaration.satisfies_iff (Rule.holds_extensions_iff he hText)).mp hAll other hOther
    · intro hAlike α β _ _ now sibling a e he hText
      rw [hListed, FieldDeclaration.satisfies_iff (Rule.holds_extensions_iff he hText)]
      constructor
      · rintro ⟨set, hSet, hMem⟩ other hOther
        exact hAlike set hSet other hOther e he hMem
      · intro hAll
        obtain ⟨set, hSet⟩ := List.exists_mem_of_ne_nil _ hSets
        exact ⟨set, hSet, hAll set hSet⟩

end FieldSummary

theorem Summary.ofPlan_listsExtensions {d : ModelDeclaration} {f : FieldDeclaration} {index : Nat}
    (hField : d.fields[index]? = some f) (hSome : ∃ c ∈ f.constraints, c.rule.extensions?.isSome) :
    ∃ s, (ofPlan (.ofDeclaration d)).fields[index]? = some s ∧ s.ListsExtensions f := by
  refine ⟨_, by rw [getElem?_fields_ofPlan, hField, Option.map_some], ?_⟩
  exact FieldSummary.listsExtensions_foldl f.planned (FieldDeclaration.sets_ne_nil_iff.mpr hSome)

namespace Picture

def file : FieldDeclaration :=
  { name := "file"
    fieldType := .string
    constraints :=
      [{ rule := .fileExtension ["..PNG", "jpg"] },
       { rule := .length 1 80 },
       { rule := .fileExtension [".Jpg", "gif"], severity := .warning }] }

def declaration : ModelDeclaration :=
  { name := "Picture", fields := [file] }

end Picture

theorem Summary.ofPlan_listsExtensions_picture :
    Picture.declaration.fields[0]? = some Picture.file ∧
    (∃ c ∈ Picture.file.constraints, c.rule.extensions?.isSome) ∧
    ∃ s, (ofPlan (.ofDeclaration Picture.declaration)).fields[0]? = some s ∧ s.ListsExtensions Picture.file :=
  have hSome : ∃ c ∈ Picture.file.constraints, c.rule.extensions?.isSome = true := by decide
  ⟨rfl, hSome, ofPlan_listsExtensions rfl hSome⟩

theorem Picture.extensionNames_file :
    (Picture.file.sets Rule.extensions?).flatMap Verdict.extensionNames = ["png", "jpg", "jpg", "gif"] := by
  simp [Picture.file, FieldDeclaration.sets, Rule.extensions?, Verdict.extensionNames, Verdict.extensionName,
    FieldSummary.lowered, ← String.toList_inj]

/-- Both sets are listed, though a name has to have an extension that is in both of them. -/
theorem Summary.ofPlan_joined : Picture.declaration.isAccepted = true ∧
    ∃ s, (ofPlan (.ofDeclaration Picture.declaration)).fields = [s] ∧ s.fileExtensions = ["png", "jpg", "gif"] ∧
      ¬ s.ExactExtensions Picture.file := by
  have hListing : (Picture.file.constraints.foldl FieldSummary.absorbConstraint
      (.ofPlanned Picture.file.planned)).fileExtensions = ["png", "jpg", "gif"] := by
    rw [FieldSummary.fileExtensions_foldl, Picture.extensionNames_file]
    decide +kernel
  refine ⟨by decide +kernel, _, Summary.fields_ofPlan Picture.declaration, hListing, ?_⟩
  intro hExact
  have hExtension : Verdict.IsExtension "gif" := ⟨by simp, by simp, by simp [Verdict.isSeparator]⟩
  have hGif : FieldSummary.lowered "gif" = "gif" := by simp [FieldSummary.lowered, ← String.toList_inj]
  have hListed : FieldSummary.lowered "gif" ∈ (Picture.file.constraints.foldl FieldSummary.absorbConstraint
      (.ofPlanned Picture.file.planned)).fileExtensions := by simp [hListing, hGif]
  have hAll := (hExact .epoch Value.null _ "gif" hExtension (Verdict.holdsText_dynamic _)).mp hListed
  have hFirst := hAll { rule := .fileExtension ["..PNG", "jpg"] } (by decide) rfl
  revert hFirst
  decide +kernel

end FieldRules
