import FieldRules.Proofs.Declaration.Defects
import FieldRules.Summary
import Mathlib.Data.List.Forall2

/-!
# What summaries say

The summary of a field takes in its constraints one after the other. The bounds that are left admit what all of
the rules admit, and the lists hold what the rules name, in the order of the declaration.
-/
set_option autoImplicit false

namespace FieldRules

namespace Double

variable {x y : Double} {p q : Int}

theorem ne_nan_iff : x ≠ nan ↔ ∃ p, x.position = some p := by
  cases x <;> simp [position]

theorem ne_nan_of_isFinite (h : x.isFinite = true) : x ≠ nan := by
  rintro rfl
  cases h

theorem position_max (hp : x.position = some p) (hq : y.position = some q) :
    (x.max y).position = some (Max.max p q) := by
  unfold max
  split
  · cases hp
  · cases hq
  · by_cases hLess : p < q
    · have hMax : Max.max p q = q := by omega
      simp [less, hp, hq, hLess, hMax]
    · have hMax : Max.max p q = p := by omega
      simp [less, hp, hq, hLess, hMax]

theorem position_min (hp : x.position = some p) (hq : y.position = some q) :
    (x.min y).position = some (Min.min p q) := by
  unfold min
  split
  · cases hp
  · cases hq
  · by_cases hLess : q < p
    · have hMin : Min.min p q = q := by omega
      simp [less, hp, hq, hLess, hMin]
    · have hMin : Min.min p q = p := by omega
      simp [less, hp, hq, hLess, hMin]

theorem max_ne_nan (hx : x ≠ nan) (hy : y ≠ nan) : x.max y ≠ nan := by
  obtain ⟨p, hp⟩ := ne_nan_iff.mp hx
  obtain ⟨q, hq⟩ := ne_nan_iff.mp hy
  exact ne_nan_iff.mpr ⟨_, position_max hp hq⟩

theorem min_ne_nan (hx : x ≠ nan) (hy : y ≠ nan) : x.min y ≠ nan := by
  obtain ⟨p, hp⟩ := ne_nan_iff.mp hx
  obtain ⟨q, hq⟩ := ne_nan_iff.mp hy
  exact ne_nan_iff.mpr ⟨_, position_min hp hq⟩

theorem max_atMost_iff (hx : x ≠ nan) (hy : y ≠ nan) (z : Double) :
    (x.max y).atMost z = true ↔ x.atMost z = true ∧ y.atMost z = true := by
  obtain ⟨p, hp⟩ := ne_nan_iff.mp hx
  obtain ⟨q, hq⟩ := ne_nan_iff.mp hy
  cases hz : z.position with
  | none => simp [atMost, hp, hz]
  | some r =>
    simp only [atMost, position_max hp hq, hp, hq, hz, decide_eq_true_eq]
    omega

theorem atMost_min_iff (hx : x ≠ nan) (hy : y ≠ nan) (z : Double) :
    z.atMost (x.min y) = true ↔ z.atMost x = true ∧ z.atMost y = true := by
  obtain ⟨p, hp⟩ := ne_nan_iff.mp hx
  obtain ⟨q, hq⟩ := ne_nan_iff.mp hy
  cases hz : z.position with
  | none => simp [atMost, hp, hz]
  | some r =>
    simp only [atMost, position_min hp hq, hp, hq, hz, decide_eq_true_eq]
    omega

end Double

namespace Verdict

variable {α : Type} [FieldValue α] {a : α}

/-- The value reads as a text: a text itself, dynamic or typed, or one in a pointer or an option. -/
structure ReadsText (a : α) (text : String) : Prop where
  isNull : FieldValue.isNull a = false
  textView : textView a = some text

structure ReadsNumber (a : α) (x : Double) : Prop where
  isNull : FieldValue.isNull a = false
  numberView : numberView a = some x

theorem ReadsText.length_iff {text : String} (h : ReadsText a text) (min max : UInt64) :
    length min max a = true ↔ min.toNat ≤ text.length ∧ text.length ≤ max.toNat := by
  simp [length, h.isNull, h.textView]

theorem ReadsNumber.range_iff {x : Double} (h : ReadsNumber a x) (min max : Double) :
    range min max a = true ↔ min.atMost x = true ∧ x.atMost max = true := by
  simp [range, between, h.isNull, h.numberView]

end Verdict

/-- The members of a list, each once, in the order in which they first stand in it. -/
structure ListsFirst {α : Type} [BEq α] (members declared : List α) : Prop where
  mem_iff : ∀ a, a ∈ members ↔ a ∈ declared
  order : members.Pairwise fun a b => declared.idxOf a < declared.idxOf b

namespace ListsFirst

variable {α : Type} [BEq α]

theorem nil : ListsFirst ([] : List α) [] :=
  ⟨fun _ => Iff.rfl, .nil⟩

variable [LawfulBEq α]

theorem concat {members declared : List α} (h : ListsFirst members declared) (a : α) :
    ListsFirst (addNew members a) (declared ++ [a]) := by
  have hKeep : members.Pairwise fun b c => (declared ++ [a]).idxOf b < (declared ++ [a]).idxOf c := by
    refine h.order.imp_of_mem fun hb hc hLt => ?_
    rwa [List.idxOf_append_of_mem ((h.mem_iff _).mp hb), List.idxOf_append_of_mem ((h.mem_iff _).mp hc)]
  unfold addNew
  split
  · next hOld =>
    have hMem : a ∈ declared := (h.mem_iff a).mp (List.contains_iff_mem.mp hOld)
    refine ⟨fun b => ?_, hKeep⟩
    rw [h.mem_iff, List.mem_append, List.mem_singleton]
    exact ⟨.inl, fun hb => hb.elim id fun hEq => hEq ▸ hMem⟩
  · next hNew =>
    have hNotMem : a ∉ declared := fun hMem => hNew (List.contains_iff_mem.mpr ((h.mem_iff a).mpr hMem))
    refine ⟨fun b => by rw [List.mem_append, List.mem_append, h.mem_iff], ?_⟩
    refine List.pairwise_append.mpr ⟨hKeep, List.pairwise_singleton _ _, fun b hb c hc => ?_⟩
    obtain rfl := List.mem_singleton.mp hc
    have hDeclared := (h.mem_iff b).mp hb
    rw [List.idxOf_append_of_mem hDeclared, List.idxOf_append_of_notMem hNotMem]
    exact Nat.lt_of_lt_of_le (List.idxOf_lt_length_of_mem hDeclared) (Nat.le_add_right _ _)

theorem foldl_addNew {members declared : List α} (h : ListsFirst members declared) (added : List α) :
    ListsFirst (added.foldl addNew members) (declared ++ added) := by
  -- for any list gathered so far, since each member that is added makes it longer
  induction added generalizing members declared with
  | nil => rwa [List.foldl_nil, List.append_nil]
  | cons a rest ih =>
    rw [List.foldl_cons, List.append_cons]
    exact ih (h.concat a)

end ListsFirst

namespace Rule

def format? : Rule → Option Format
  | email => some .email
  | url => some .url
  | creditCard => some .creditCard
  | phone => some .phone
  | fileExtension _ => some .fileExtension
  | futureDate => some .futureDate
  | _ => none

def condition? : Rule → Option Condition
  | requiredIf other target =>
    some { other, target, required := true, numericMin := none, numericMax := none }
  | conditionalRange other target min max =>
    some { other, target, required := false, numericMin := some min, numericMax := some max }
  | _ => none

end Rule

namespace FieldSummary

/-- A count of characters is within the bounds of a summary; without a lower bound it is 0. -/
def AdmitsLength (s : FieldSummary) (n : Nat) : Prop :=
  (s.stringMin.getD 0).toNat ≤ n ∧ ∀ max ∈ s.stringMax, n ≤ max.toNat

/-- A number is within those bounds of a summary that are there. -/
def AdmitsNumber (s : FieldSummary) (x : Double) : Prop :=
  (∀ min ∈ s.numericMin, min.atMost x = true) ∧ ∀ max ∈ s.numericMax, x.atMost max = true

def planned (s : FieldSummary) : PlannedField :=
  ⟨s.name, s.displayName, s.fieldType, s.nullable⟩

/-- What the summary of a field says about its constraints, whatever their groups. -/
structure Describes (s : FieldSummary) (f : FieldDeclaration) : Prop where
  planned : s.planned = f.planned
  lengths : ∀ {α : Type} [FieldValue α] (a : α) (text : String), Verdict.ReadsText a text →
    ((∀ c ∈ f.constraints, ∀ min max, c.rule = .length min max → Verdict.length min max a = true) ↔
      s.AdmitsLength text.length)
  ranges : ∀ {α : Type} [FieldValue α] (a : α) (x : Double), Verdict.ReadsNumber a x →
    ((∀ c ∈ f.constraints, ∀ min max, c.rule = .range min max → Verdict.range min max a = true) ↔
      s.AdmitsNumber x)
  required : s.hasRequired = true ↔ ∃ c ∈ f.constraints, c.rule = .required
  formats : ListsFirst s.formats (f.constraints.filterMap fun c => c.rule.format?)
  groups : ListsFirst s.groups (f.constraints.filterMap Constraint.group)
  conditions : s.conditions = f.constraints.filterMap fun c => c.rule.condition?

section Step

variable (s : FieldSummary) (c : Constraint)

theorem absorbConstraint_eq : s.absorbConstraint c =
    { s.absorb c.rule with groups := c.group.toList.foldl addNew s.groups } := by
  unfold absorbConstraint
  cases c.group <;> cases c.rule <;> rfl

theorem planned_absorbConstraint : (s.absorbConstraint c).planned = s.planned := by
  rw [absorbConstraint_eq]
  cases c.rule <;> rfl

theorem hasRequired_absorbConstraint :
    (s.absorbConstraint c).hasRequired = true ↔ s.hasRequired = true ∨ c.rule = .required := by
  rw [absorbConstraint_eq]
  cases c.rule <;> simp [absorb, addFormat]

theorem formats_absorbConstraint :
    (s.absorbConstraint c).formats = c.rule.format?.toList.foldl addNew s.formats := by
  rw [absorbConstraint_eq]
  cases c.rule <;> rfl

theorem groups_absorbConstraint :
    (s.absorbConstraint c).groups = c.group.toList.foldl addNew s.groups := by
  rw [absorbConstraint_eq]

theorem conditions_absorbConstraint :
    (s.absorbConstraint c).conditions = s.conditions ++ c.rule.condition?.toList := by
  rw [absorbConstraint_eq]
  cases c.rule <;> simp [absorb, addFormat, Rule.condition?]

theorem stringMin_length_le_iff (min max : UInt64) (n : Nat) :
    ((s.absorb (.length min max)).stringMin.getD 0).toNat ≤ n ↔
      (s.stringMin.getD 0).toNat ≤ n ∧ min.toNat ≤ n := by
  by_cases hPos : 0 < min
  · cases hMin : s.stringMin with
    | none => simp [absorb, hPos, hMin]
    | some m =>
      by_cases hLess : m < min
      · have hLt : m.toNat < min.toNat := UInt64.lt_iff_toNat_lt.mp hLess
        simp only [absorb, hPos, hMin, hLess, ↓reduceIte, Option.map_some, Option.getD_some]
        omega
      · have hLe : min.toNat ≤ m.toNat := UInt64.le_iff_toNat_le.mp (UInt64.not_lt.mp hLess)
        simp only [absorb, hPos, hMin, hLess, ↓reduceIte, Option.map_some, Option.getD_some]
        omega
  · -- the minimum 0 adds no bound, and asks for nothing
    have hZero : min.toNat = 0 := by
      rw [UInt64.lt_iff_toNat_lt] at hPos
      exact Nat.eq_zero_of_not_pos hPos
    simp [absorb, hPos, hZero]

theorem le_stringMax_length_iff (min max : UInt64) (n : Nat) :
    (∀ m ∈ (s.absorb (.length min max)).stringMax, n ≤ m.toNat) ↔
      (∀ m ∈ s.stringMax, n ≤ m.toNat) ∧ n ≤ max.toNat := by
  cases hMax : s.stringMax with
  | none => simp [absorb, hMax]
  | some m =>
    by_cases hLess : max < m
    · have hLt : max.toNat < m.toNat := UInt64.lt_iff_toNat_lt.mp hLess
      simp only [absorb, hMax, hLess, ↓reduceIte, Option.map_some, Option.getD_some, Option.mem_some_iff,
        forall_eq']
      omega
    · have hLe : m.toNat ≤ max.toNat := UInt64.le_iff_toNat_le.mp (UInt64.not_lt.mp hLess)
      simp only [absorb, hMax, hLess, ↓reduceIte, Option.map_some, Option.getD_some, Option.mem_some_iff,
        forall_eq']
      omega

theorem admitsLength_absorbConstraint (n : Nat) : (s.absorbConstraint c).AdmitsLength n ↔
    s.AdmitsLength n ∧ ∀ min max, c.rule = .length min max → min.toNat ≤ n ∧ n ≤ max.toNat := by
  rw [absorbConstraint_eq]
  cases hRule : c.rule with
  | length min max =>
    have hOwn : (∀ min' max', Rule.length min max = .length min' max' → min'.toNat ≤ n ∧ n ≤ max'.toNat) ↔
        min.toNat ≤ n ∧ n ≤ max.toNat := by
      simp
    have hBounds := and_congr (s.stringMin_length_le_iff min max n) (s.le_stringMax_length_iff min max n)
    rw [hOwn]
    exact hBounds.trans and_and_and_comm
  | _ => simp [AdmitsLength, absorb, addFormat]

/-- No bound of the summary is not-a-number. -/
def HasNumbers (s : FieldSummary) : Prop :=
  (∀ min ∈ s.numericMin, min ≠ .nan) ∧ ∀ max ∈ s.numericMax, max ≠ .nan

variable {s c} (hNumbers : s.HasNumbers)
  (hRange : ∀ min max, c.rule = .range min max → min ≠ .nan ∧ max ≠ .nan)

include hNumbers hRange

theorem HasNumbers.absorbConstraint : (s.absorbConstraint c).HasNumbers := by
  rw [absorbConstraint_eq]
  cases hRule : c.rule with
  | range min max =>
    obtain ⟨hMin, hMax⟩ := hRange min max hRule
    refine ⟨fun x hx => ?_, fun x hx => ?_⟩
    · obtain rfl := Option.some.inj hx
      cases hBound : s.numericMin with
      | none => exact hMin
      | some y => exact Double.max_ne_nan (hNumbers.1 y hBound) hMin
    · obtain rfl := Option.some.inj hx
      cases hBound : s.numericMax with
      | none => exact hMax
      | some y => exact Double.min_ne_nan (hNumbers.2 y hBound) hMax
  | _ => exact hNumbers

theorem admitsNumber_absorbConstraint (x : Double) : (s.absorbConstraint c).AdmitsNumber x ↔
    s.AdmitsNumber x ∧ ∀ min max, c.rule = .range min max → min.atMost x = true ∧ x.atMost max = true := by
  rw [absorbConstraint_eq]
  cases hRule : c.rule with
  | range min max =>
    obtain ⟨hMin, hMax⟩ := hRange min max hRule
    -- not-a-number would give way to the other bound, and its rule would be lost
    have hLow : (∀ m ∈ (s.absorb (.range min max)).numericMin, m.atMost x = true) ↔
        (∀ m ∈ s.numericMin, m.atMost x = true) ∧ min.atMost x = true := by
      cases hBound : s.numericMin with
      | none => simp [absorb, hBound]
      | some y => simp [absorb, hBound, Double.max_atMost_iff (hNumbers.1 y hBound) hMin]
    have hHigh : (∀ m ∈ (s.absorb (.range min max)).numericMax, x.atMost m = true) ↔
        (∀ m ∈ s.numericMax, x.atMost m = true) ∧ x.atMost max = true := by
      cases hBound : s.numericMax with
      | none => simp [absorb, hBound]
      | some y => simp [absorb, hBound, Double.atMost_min_iff (hNumbers.2 y hBound) hMax]
    have hOwn : (∀ min' max', Rule.range min max = .range min' max' →
        min'.atMost x = true ∧ x.atMost max' = true) ↔ min.atMost x = true ∧ x.atMost max = true := by
      simp
    rw [hOwn]
    exact (and_congr hLow hHigh).trans and_and_and_comm
  | _ => simp [AdmitsNumber, absorb, addFormat]

end Step

section Run

/-- Where each constraint adds one part to what is gathered, or nothing, a run adds the parts in order. -/
theorem foldl_gathers {β γ : Type} {gathered : FieldSummary → γ} {part : Constraint → Option β} {add : γ → β → γ}
    (hStep : ∀ s c, gathered (s.absorbConstraint c) = (part c).toList.foldl add (gathered s))
    (s : FieldSummary) (constraints : List Constraint) :
    gathered (constraints.foldl absorbConstraint s) =
      (constraints.filterMap part).foldl add (gathered s) := by
  induction constraints generalizing s with
  | nil => rfl
  | cons c rest ih =>
    rw [List.foldl_cons, ih, hStep, List.filterMap_cons]
    cases part c <;> rfl

variable (s : FieldSummary) (constraints : List Constraint)

theorem planned_foldl : (constraints.foldl absorbConstraint s).planned = s.planned := by
  induction constraints generalizing s with
  | nil => rfl
  | cons c rest ih => rw [List.foldl_cons, ih, planned_absorbConstraint]

theorem hasRequired_foldl : (constraints.foldl absorbConstraint s).hasRequired = true ↔
    s.hasRequired = true ∨ ∃ c ∈ constraints, c.rule = .required := by
  induction constraints generalizing s with
  | nil => simp
  | cons c rest ih =>
    rw [List.foldl_cons, ih, hasRequired_absorbConstraint, List.exists_mem_cons_iff, or_assoc]

theorem conditions_foldl : (constraints.foldl absorbConstraint s).conditions =
    s.conditions ++ constraints.filterMap fun c => c.rule.condition? := by
  induction constraints generalizing s with
  | nil => exact (List.append_nil _).symm
  | cons c rest ih =>
    rw [List.foldl_cons, ih, conditions_absorbConstraint, List.append_assoc, List.filterMap_cons]
    cases c.rule.condition? <;> rfl

theorem admitsLength_foldl (n : Nat) : (constraints.foldl absorbConstraint s).AdmitsLength n ↔
    s.AdmitsLength n ∧
      ∀ c ∈ constraints, ∀ min max, c.rule = .length min max → min.toNat ≤ n ∧ n ≤ max.toNat := by
  induction constraints generalizing s with
  | nil => simp
  | cons c rest ih =>
    rw [List.foldl_cons, ih, admitsLength_absorbConstraint, List.forall_mem_cons, and_assoc]

theorem admitsNumber_foldl {s : FieldSummary} {constraints : List Constraint} (hNumbers : s.HasNumbers)
    (hRanges : ∀ c ∈ constraints, ∀ min max, c.rule = .range min max → min ≠ .nan ∧ max ≠ .nan)
    (x : Double) : (constraints.foldl absorbConstraint s).AdmitsNumber x ↔
      s.AdmitsNumber x ∧
        ∀ c ∈ constraints, ∀ min max, c.rule = .range min max → min.atMost x = true ∧ x.atMost max = true := by
  induction constraints generalizing s with
  | nil => simp
  | cons c rest ih =>
    obtain ⟨hRange, hRest⟩ := List.forall_mem_cons.mp hRanges
    rw [List.foldl_cons, ih (hNumbers.absorbConstraint hRange) hRest,
      admitsNumber_absorbConstraint hNumbers hRange, List.forall_mem_cons, and_assoc]

end Run

theorem describes_foldl {f : FieldDeclaration}
    (hRanges : ∀ c ∈ f.constraints, ∀ min max, c.rule = .range min max → min ≠ .nan ∧ max ≠ .nan) :
    (f.constraints.foldl absorbConstraint (ofPlanned f.planned)).Describes f where
  planned := planned_foldl _ _
  lengths a text hText := by
    have hStart : (ofPlanned f.planned).AdmitsLength text.length := ⟨Nat.zero_le _, by simp [ofPlanned]⟩
    simp only [hText.length_iff, admitsLength_foldl, hStart, true_and]
  ranges a x hNumber := by
    have hStart : (ofPlanned f.planned).AdmitsNumber x := ⟨by simp [ofPlanned], by simp [ofPlanned]⟩
    have hNumbers : (ofPlanned f.planned).HasNumbers := ⟨by simp [ofPlanned], by simp [ofPlanned]⟩
    simp only [hNumber.range_iff, admitsNumber_foldl hNumbers hRanges, hStart, true_and]
  required := by simp [hasRequired_foldl, ofPlanned]
  formats := by
    rw [foldl_gathers formats_absorbConstraint]
    exact ListsFirst.nil.foldl_addNew _
  groups := by
    rw [foldl_gathers groups_absorbConstraint]
    exact ListsFirst.nil.foldl_addNew _
  conditions := conditions_foldl _ _

end FieldSummary

def ModelDeclaration.HasFiniteRanges (d : ModelDeclaration) : Prop :=
  ∀ f ∈ d.fields, ∀ c ∈ f.constraints, ∀ min max, c.rule = .range min max →
    min.isFinite = true ∧ max.isFinite = true

theorem ModelDeclaration.hasFiniteRanges_of_isAccepted {d : ModelDeclaration} (h : d.isAccepted = true) :
    d.HasFiniteRanges := by
  intro f hf c hc min max hRule
  obtain ⟨hMin, hMax, -⟩ := (isAccepted_iff_wellFormed.mp h).ranges_ordered f hf c hc min max hRule
  exact ⟨hMin, hMax⟩

namespace Summary

theorem getElem?_foldl_absorbStep (steps : List ValidateStep) (fields : List FieldSummary) (index : Nat) :
    (steps.foldl absorbStep fields)[index]? = fields[index]?.map
      (((steps.filter fun s => s.field == index).filterMap ValidateStep.constraint?).foldl
        FieldSummary.absorbConstraint) := by
  -- a step changes the summary at its own index only, so the steps of other fields drop out
  induction steps generalizing fields with
  | nil => simp
  | cons s rest ih =>
    rw [List.foldl_cons, ih]
    cases s with
    | custom i w =>
      by_cases hEq : i = index
      · simp [absorbStep, hEq, List.filterMap_cons]
      · simp [absorbStep, hEq]
    | constraint i c sibling =>
      rw [absorbStep, List.getElem?_modify]
      by_cases hEq : i = index
      · cases fields[index]? <;> simp [hEq]
      · simp [hEq]

theorem getElem?_fields_ofPlan (d : ModelDeclaration) (index : Nat) :
    (ofPlan (.ofDeclaration d)).fields[index]? = d.fields[index]?.map fun f =>
      f.constraints.foldl FieldSummary.absorbConstraint (.ofPlanned f.planned) := by
  have hSteps := Plan.stepsFor_ofDeclaration d index
  rw [Plan.stepsFor] at hSteps
  rw [ofPlan, getElem?_foldl_absorbStep, hSteps, List.getElem?_map, Plan.fields_getElem?]
  cases d.fields[index]? with
  | none => rfl
  | some f =>
    simp only [Option.map_some, Option.elim_some, FieldDeclaration.constraints_of_steps]

/-- Every field with its own summary, each field alone deciding what its summary says. -/
theorem fields_ofPlan (d : ModelDeclaration) : (ofPlan (.ofDeclaration d)).fields = d.fields.map fun f =>
    f.constraints.foldl FieldSummary.absorbConstraint (.ofPlanned f.planned) := by
  refine List.ext_getElem? fun index => ?_
  rw [getElem?_fields_ofPlan, List.getElem?_map]

/-- A summary describes a declaration if it describes the fields, one for one. -/
structure Describes (s : Summary) (d : ModelDeclaration) : Prop where
  model : s.model = d.name
  fields : List.Forall₂ FieldSummary.Describes s.fields d.fields

theorem ofPlan_describes {d : ModelDeclaration} (hFinite : d.HasFiniteRanges) :
    (ofPlan (.ofDeclaration d)).Describes d where
  model := rfl
  fields := by
    rw [fields_ofPlan, List.forall₂_map_left_iff, List.forall₂_same]
    intro f hf
    refine FieldSummary.describes_foldl fun c hc min max hRule => ?_
    obtain ⟨hMin, hMax⟩ := hFinite f hf c hc min max hRule
    exact ⟨Double.ne_nan_of_isFinite hMin, Double.ne_nan_of_isFinite hMax⟩

end Summary

namespace Ledger

/-- Bounds, a format and a group are given twice, and each pair is narrowed from both sides. -/
def declaration : ModelDeclaration :=
  { name := "Ledger"
    fields :=
      [{ name := "owner"
         fieldType := .string
         constraints :=
           [{ rule := .length 0 12, group := some "draft" },
            { rule := .email },
            { rule := .length 2 20, group := some "final" },
            { rule := .email, group := some "draft" },
            { rule := .requiredIf "amount" (.ofInt 7) }] },
       { name := "amount"
         fieldType := .float
         constraints :=
           [{ rule := .required },
            { rule := .range (.ofInt 0) (.ofInt 10) },
            { rule := .range (.ofInt 5) (.ofInt 20) }] }] }

theorem hasFiniteRanges : declaration.HasFiniteRanges :=
  ModelDeclaration.hasFiniteRanges_of_isAccepted (by decide +kernel)

end Ledger

theorem Summary.ofPlan_describes_ledger :
    Ledger.declaration.HasFiniteRanges ∧
    (ofPlan (.ofDeclaration Ledger.declaration)).Describes Ledger.declaration :=
  ⟨Ledger.hasFiniteRanges, ofPlan_describes Ledger.hasFiniteRanges⟩

/-- The owner has 2 to 12 characters, the amount is between 5 and 10. -/
example : (Summary.ofPlan (.ofDeclaration Ledger.declaration)).fields.map (fun s =>
      ((s.stringMin, s.stringMax), (s.numericMin, s.numericMax), s.formats, s.groups)) =
    [((some 2, some 12), (none, none), [.email], ["draft", "final"]),
     ((none, none), (some (.ofInt 5), some (.ofInt 10)), [], [])] := by
  decide +kernel

end FieldRules
