import FieldRules.Proofs.Declaration.Accepted
import FieldRules.Proofs.Plan.Steps
import Mathlib.Data.List.Basic

/-!
# Defects of declarations

What can be wrong in a declaration is laid down rule by rule and place by place, apart from the check. The check
finds all of it: each defect once, ordered by the place where it stands. So a declaration is accepted exactly if
it is well formed.
-/
set_option autoImplicit false

namespace FieldRules

namespace Rule

/-- A rule on text stands on a type that can hold text, a rule on numbers on one that can hold numbers. -/
def Fits (r : Rule) (type : FieldType) : Prop :=
  (r.isTextual = true → type.isTextual = true) ∧ (r.isNumeric = true → type.isNumeric = true)

def AreBounds (min max : Double) : Prop :=
  min.isFinite = true ∧ max.isFinite = true ∧ min.atMost max = true

/-- What is wrong with a rule on a field of a model. -/
inductive HasDefect (d : ModelDeclaration) (f : FieldDeclaration) : Rule → Defect → Prop where
  | type {r : Rule} (hFits : ¬ r.Fits f.fieldType) :
    HasDefect d f r (.incompatibleType f.name r.name f.fieldType.name)
  | length {min max : UInt64} (hOrder : max < min) :
    HasDefect d f (length min max)
      (.invalidBounds f.name "string_length" (toString min.toNat) (toString max.toNat))
  | range {min max : Double} (hBounds : ¬ AreBounds min max) :
    HasDefect d f (range min max) (.invalidBounds f.name "range" min.plain max.plain)
  | conditionalRange {other : String} {target : Value} {min max : Double} (hBounds : ¬ AreBounds min max) :
    HasDefect d f (conditionalRange other target min max)
      (.invalidBounds f.name "conditional_range" min.plain max.plain)
  | extensions : HasDefect d f (fileExtension []) (.emptySet f.name "file_extension")
  | values : HasDefect d f (allowedValues []) (.emptySet f.name "allowed_values")
  | selfReference {r : Rule} (hSibling : r.sibling? = some f.name) :
    HasDefect d f r (.selfReference f.name r.name)
  | danglingReference {r : Rule} {other : String} (hSibling : r.sibling? = some other)
    (hOther : other ≠ f.name) (hMissing : ∀ g ∈ d.fields, g.name ≠ other) :
    HasDefect d f r (.danglingReference f.name other r.name)

end Rule

/-- A place in a declaration, by the index of a field and that of a constraint of the field. -/
inductive Place where
  | model
  | field (index : Nat)
  | constraint (field index : Nat)

/-- What is wrong in a declaration, and where. A field with a blank name has no other defect. -/
inductive ModelDeclaration.HasDefect (d : ModelDeclaration) : Place → Defect → Prop where
  | modelName (hBlank : Text.blank d.name = true) : d.HasDefect .model (.emptyName .model)
  | fieldName {i : Nat} {f : FieldDeclaration} (hField : d.fields[i]? = some f)
    (hBlank : Text.blank f.name = true) : d.HasDefect (.field i) (.emptyName .field)
  | repeated {i j : Nat} {f g : FieldDeclaration} (hField : d.fields[i]? = some f)
    (hNamed : Text.blank f.name = false) (hEarlier : j < i) (hOther : d.fields[j]? = some g)
    (hName : g.name = f.name) : d.HasDefect (.field i) (.duplicateField f.name)
  | rule {i j : Nat} {f : FieldDeclaration} {c : Constraint} {defect : Defect}
    (hField : d.fields[i]? = some f) (hNamed : Text.blank f.name = false)
    (hConstraint : f.constraints[j]? = some c) (hRule : c.rule.HasDefect d f defect) :
    d.HasDefect (.constraint i j) defect

structure ModelDeclaration.WellFormed (d : ModelDeclaration) : Prop where
  model_named : Text.blank d.name = false
  fields_named : ∀ f ∈ d.fields, Text.blank f.name = false
  names_distinct : d.fields.Pairwise fun f g => f.name ≠ g.name
  rules_fit : ∀ f ∈ d.fields, ∀ c ∈ f.constraints, c.rule.Fits f.fieldType
  lengths_ordered : ∀ f ∈ d.fields, ∀ c ∈ f.constraints, ∀ min max, c.rule = .length min max → min ≤ max
  ranges_ordered : ∀ f ∈ d.fields, ∀ c ∈ f.constraints, ∀ min max, c.rule = .range min max →
    Rule.AreBounds min max
  conditions_ordered : ∀ f ∈ d.fields, ∀ c ∈ f.constraints, ∀ other target min max,
    c.rule = .conditionalRange other target min max → Rule.AreBounds min max
  sets_filled : ∀ f ∈ d.fields, ∀ c ∈ f.constraints, c.rule ≠ .fileExtension [] ∧ c.rule ≠ .allowedValues []
  siblings_declared : ∀ f ∈ d.fields, ∀ c ∈ f.constraints, ∀ other, c.rule.sibling? = some other →
    other ≠ f.name ∧ ∃ g ∈ d.fields, g.name = other

def Defect.rank : Defect → Nat
  | incompatibleType _ _ _ => 1
  | invalidBounds _ _ _ _ => 2
  | emptySet _ _ => 3
  | selfReference _ _ => 4
  | danglingReference _ _ _ => 4
  | _ => 0

abbrev Located := Place × Defect

def Located.key (e : Located) : List Nat :=
  match e.1 with
  | .model => []
  | .field i => [i]
  | .constraint i j => [i, j, e.2.rank]

/-- By the fields in order, a field before its constraints, and these in order. -/
def Located.Precedes (a b : Located) : Prop :=
  Located.key a < Located.key b

namespace Rule

section Parts

variable (d : ModelDeclaration) (f : FieldDeclaration) (r : Rule)

/-- One part of the check of a rule: it finds no defect or one that the rule has. -/
def FindsAtMostOne (rank : Nat) (found : List Defect) : Prop :=
  found = [] ∨ ∃ x, found = [x] ∧ r.HasDefect d f x ∧ x.rank = rank

theorem findsAtMostOne_ite {rank : Nat} {p : Prop} [Decidable p] {x : Defect}
    (h : p → r.HasDefect d f x ∧ x.rank = rank) : FindsAtMostOne d f r rank (if p then [x] else []) := by
  by_cases hp : p
  · exact .inr ⟨x, if_pos hp, h hp⟩
  · exact .inl (if_neg hp)

variable {d f r} in
theorem FindsAtMostOne.of_mem {rank : Nat} {found : List Defect} (h : FindsAtMostOne d f r rank found)
    {x : Defect} (hx : x ∈ found) : r.HasDefect d f x ∧ x.rank = rank := by
  obtain rfl | ⟨y, rfl, hy⟩ := h
  · cases hx
  · obtain rfl := List.mem_singleton.mp hx
    exact hy

variable {d f r} in
theorem FindsAtMostOne.pairwise {rank : Nat} {found : List Defect} (h : FindsAtMostOne d f r rank found) :
    found.Pairwise fun a b => a.rank < b.rank := by
  obtain rfl | ⟨y, rfl, -⟩ := h
  · exact .nil
  · exact List.pairwise_singleton _ y

theorem misfit_iff : (r.isTextual && !f.fieldType.isTextual || r.isNumeric && !f.fieldType.isNumeric) = true ↔
    ¬ r.Fits f.fieldType := by
  simp only [Fits, Bool.or_eq_true, Bool.and_eq_true, Bool.not_eq_true']
  grind

theorem areBounds_iff (min max : Double) :
    (min.isFinite && max.isFinite && min.atMost max) = true ↔ AreBounds min max := by
  rw [Bool.and_eq_true, Bool.and_eq_true, AreBounds, and_assoc]

theorem field?_isNone_iff (name : String) :
    (d.field? name).isNone = true ↔ ∀ g ∈ d.fields, g.name ≠ name := by
  simp [ModelDeclaration.field?]

theorem typeDefect_findsAtMostOne : FindsAtMostOne d f r 1 (r.typeDefect f.name f.fieldType) :=
  findsAtMostOne_ite d f r fun h => ⟨.type ((misfit_iff f r).mp h), rfl⟩

theorem boundsDefect_findsAtMostOne : FindsAtMostOne d f r 2 (r.boundsDefect f.name) := by
  cases r with
  | length min max => exact findsAtMostOne_ite d f _ fun h => ⟨.length h, rfl⟩
  | range min max =>
    rw [boundsDefect, ← ite_not]
    exact findsAtMostOne_ite d f _ fun h => ⟨.range (mt (areBounds_iff min max).mpr h), rfl⟩
  | conditionalRange other target min max =>
    rw [boundsDefect, ← ite_not]
    exact findsAtMostOne_ite d f _ fun h => ⟨.conditionalRange (mt (areBounds_iff min max).mpr h), rfl⟩
  | _ => exact .inl rfl

theorem emptySetDefect_findsAtMostOne : FindsAtMostOne d f r 3 (r.emptySetDefect f.name) := by
  cases r with
  | fileExtension extensions =>
    refine findsAtMostOne_ite d f _ fun h => ?_
    obtain rfl := List.isEmpty_iff.mp h
    exact ⟨.extensions, rfl⟩
  | allowedValues values =>
    refine findsAtMostOne_ite d f _ fun h => ?_
    obtain rfl := List.isEmpty_iff.mp h
    exact ⟨.values, rfl⟩
  | _ => exact .inl rfl

theorem referenceDefect_findsAtMostOne : FindsAtMostOne d f r 4 (r.referenceDefect d f.name) := by
  rw [referenceDefect]
  cases hSibling : r.sibling? with
  | none => exact .inl rfl
  | some other =>
    by_cases hSelf : other = f.name
    · subst hSelf
      exact .inr ⟨.selfReference f.name r.name, by simp, .selfReference hSibling, rfl⟩
    · simp only [beq_iff_eq, hSelf, if_false]
      exact findsAtMostOne_ite d f r fun h =>
        ⟨.danglingReference hSibling hSelf ((field?_isNone_iff d other).mp h), rfl⟩

theorem mem_defects_iff (x : Defect) : x ∈ r.defects d f ↔ r.HasDefect d f x := by
  simp only [defects, List.mem_append]
  constructor
  · rintro (((h | h) | h) | h)
    · exact ((typeDefect_findsAtMostOne d f r).of_mem h).1
    · exact ((boundsDefect_findsAtMostOne d f r).of_mem h).1
    · exact ((emptySetDefect_findsAtMostOne d f r).of_mem h).1
    · exact ((referenceDefect_findsAtMostOne d f r).of_mem h).1
  · intro h
    cases h with
    | type hFits =>
      left; left; left
      rw [typeDefect, if_pos ((misfit_iff f r).mpr hFits)]
      exact List.mem_singleton_self _
    | length hOrder =>
      left; left; right
      rw [boundsDefect, if_pos hOrder]
      exact List.mem_singleton_self _
    | range hBounds | conditionalRange hBounds =>
      left; left; right
      rw [boundsDefect, if_neg (mt (areBounds_iff _ _).mp hBounds)]
      exact List.mem_singleton_self _
    | extensions | values =>
      left; right
      exact List.mem_singleton_self _
    | selfReference hSibling =>
      right
      simp [referenceDefect, hSibling]
    | danglingReference hSibling hOther hMissing =>
      right
      simp [referenceDefect, hSibling, hOther, (field?_isNone_iff d _).mpr hMissing]

/-- The defects of a rule are of different kinds, in a fixed order. -/
theorem defects_pairwise : (r.defects d f).Pairwise fun a b => a.rank < b.rank := by
  have hType := typeDefect_findsAtMostOne d f r
  have hBounds := boundsDefect_findsAtMostOne d f r
  have hSet := emptySetDefect_findsAtMostOne d f r
  have hReference := referenceDefect_findsAtMostOne d f r
  have hLt {i j : Nat} {first second : List Defect} (hFirst : FindsAtMostOne d f r i first)
      (hSecond : FindsAtMostOne d f r j second) (hRanks : i < j) :
      ∀ a ∈ first, ∀ b ∈ second, a.rank < b.rank := by
    intro a ha b hb
    rwa [(hFirst.of_mem ha).2, (hSecond.of_mem hb).2]
  simp only [defects, List.pairwise_append, List.mem_append]
  refine ⟨⟨⟨hType.pairwise, hBounds.pairwise, hLt hType hBounds (by decide)⟩, hSet.pairwise, ?_⟩,
    hReference.pairwise, ?_⟩
  · rintro a (ha | ha)
    · exact hLt hType hSet (by decide) a ha
    · exact hLt hBounds hSet (by decide) a ha
  · rintro a ((ha | ha) | ha)
    · exact hLt hType hReference (by decide) a ha
    · exact hLt hBounds hReference (by decide) a ha
    · exact hLt hSet hReference (by decide) a ha

end Parts

end Rule

namespace ModelDeclaration

variable (d : ModelDeclaration)

def locatedAt (i : Nat) (f : FieldDeclaration) : List Located :=
  if Text.blank f.name then [(.field i, .emptyName .field)]
  else
    (if ∃ g ∈ d.fields.take i, g.name = f.name then [(.field i, .duplicateField f.name)] else []) ++
      f.constraints.zipIdx.flatMap fun e => (e.1.rule.defects d f).map (Prod.mk (.constraint i e.2))

def located : List Located :=
  (nameDefect .model d.name).map (Prod.mk .model) ++
    d.fields.zipIdx.flatMap fun e => d.locatedAt e.2 e.1

theorem map_snd_mk {α β : Type} (a : α) (items : List β) : (items.map (Prod.mk a)).map Prod.snd = items := by
  rw [List.map_map]
  exact List.map_id'' (fun _ => rfl) items

theorem fieldDefects_eq_flatMap (rest earlier : List FieldDeclaration) (hFields : d.fields = earlier ++ rest)
    (seen : List String)
    (hSeen : ∀ name, Text.blank name = false → (name ∈ seen ↔ ∃ g ∈ earlier, g.name = name)) :
    d.fieldDefects seen rest =
      (rest.zipIdx earlier.length).flatMap fun e => (d.locatedAt e.2 e.1).map Prod.snd := by
  -- the names that were seen stay those of the fields before, blank ones apart
  induction rest generalizing earlier seen with
  | nil => rfl
  | cons f rest ih =>
    have hNext : d.fields = (earlier ++ [f]) ++ rest := by
      rw [hFields, List.append_assoc]
      rfl
    have hTake : d.fields.take earlier.length = earlier := by rw [hFields, List.take_left]
    rw [fieldDefects, List.zipIdx_cons, List.flatMap_cons, locatedAt]
    cases hBlank : Text.blank f.name with
    | true =>
      have hRest := ih (earlier ++ [f]) hNext seen fun name hName => by
        have hNe : f.name ≠ name := fun hEq => by
          rw [hEq, hName] at hBlank
          cases hBlank
        simp [hSeen name hName, or_and_right, exists_or, hNe]
      rw [List.length_append] at hRest
      rw [if_pos rfl, if_pos rfl, hRest]
      rfl
    | false =>
      have hRest := ih (earlier ++ [f]) hNext (f.name :: seen) fun name hName => by
        simp [hSeen name hName, or_and_right, exists_or, eq_comm, or_comm]
      have hRules : (f.constraints.zipIdx.flatMap fun e =>
          (e.1.rule.defects d f).map (Prod.mk (Place.constraint earlier.length e.2))).map Prod.snd =
            f.constraints.flatMap fun c => c.rule.defects d f := by
        rw [List.map_flatMap]
        exact Plan.flatMap_zipIdx f.constraints fun c j _ => map_snd_mk _ _
      rw [List.length_append] at hRest
      rw [if_neg Bool.false_ne_true, if_neg Bool.false_ne_true, hRest, hTake, List.map_append, hRules]
      simp only [List.contains_iff_mem, hSeen f.name hBlank]
      congr 2
      split <;> rfl

theorem map_located : d.located.map Prod.snd = d.defects := by
  have hFields := d.fieldDefects_eq_flatMap d.fields [] rfl [] (by simp)
  rw [located, defects, hFields, List.map_append, List.map_flatMap, map_snd_mk]
  rfl

variable {d}

theorem mem_take_iff {i : Nat} {g : FieldDeclaration} :
    g ∈ d.fields.take i ↔ ∃ j < i, d.fields[j]? = some g := by
  rw [List.mem_iff_getElem?]
  constructor
  · rintro ⟨j, hj⟩
    rw [List.getElem?_take] at hj
    split at hj
    · next hLt => exact ⟨j, hLt, hj⟩
    · cases hj
  · rintro ⟨j, hLt, hGet⟩
    exact ⟨j, by rwa [List.getElem?_take_of_lt hLt]⟩

theorem hasDefect_of_mem_locatedAt {i : Nat} {f : FieldDeclaration} (hField : d.fields[i]? = some f)
    {e : Located} (he : e ∈ d.locatedAt i f) : d.HasDefect e.1 e.2 := by
  rw [locatedAt] at he
  cases hBlank : Text.blank f.name with
  | true =>
    rw [if_pos hBlank] at he
    obtain rfl := List.mem_singleton.mp he
    exact .fieldName hField hBlank
  | false =>
    rw [if_neg (by simp [hBlank])] at he
    rcases List.mem_append.mp he with he | he
    · split at he
      · next hEarlier =>
        obtain rfl := List.mem_singleton.mp he
        obtain ⟨g, hg, hName⟩ := hEarlier
        obtain ⟨j, hLt, hOther⟩ := mem_take_iff.mp hg
        exact .repeated hField hBlank hLt hOther hName
      · cases he
    · obtain ⟨⟨c, j⟩, hc, he⟩ := List.mem_flatMap.mp he
      obtain ⟨x, hx, rfl⟩ := List.mem_map.mp he
      exact .rule hField hBlank (List.mem_zipIdx_iff_getElem?.mp hc) ((c.rule.mem_defects_iff d f x).mp hx)

theorem mem_located_of_mem_locatedAt {i : Nat} {f : FieldDeclaration} (hField : d.fields[i]? = some f)
    {e : Located} (he : e ∈ d.locatedAt i f) : e ∈ d.located :=
  List.mem_append_right _ (List.mem_flatMap.mpr ⟨(f, i), List.mem_zipIdx_iff_getElem?.mpr hField, he⟩)

theorem mem_located_iff (place : Place) (defect : Defect) :
    (place, defect) ∈ d.located ↔ d.HasDefect place defect := by
  constructor
  · intro h
    rcases List.mem_append.mp h with h | h
    · obtain ⟨x, hx, hEq⟩ := List.mem_map.mp h
      cases hEq
      rw [nameDefect] at hx
      split at hx
      · next hBlank =>
        obtain rfl := List.mem_singleton.mp hx
        exact .modelName hBlank
      · cases hx
    · obtain ⟨⟨f, i⟩, hf, he⟩ := List.mem_flatMap.mp h
      exact hasDefect_of_mem_locatedAt (List.mem_zipIdx_iff_getElem?.mp hf) he
  · intro h
    cases h with
    | modelName hBlank => exact List.mem_append_left _ (by simp [nameDefect, hBlank])
    | fieldName hField hBlank =>
      exact mem_located_of_mem_locatedAt hField (by simp [locatedAt, hBlank])
    | repeated hField hNamed hEarlier hOther hName =>
      refine mem_located_of_mem_locatedAt hField ?_
      rw [locatedAt, if_neg (by simp [hNamed]), if_pos ⟨_, mem_take_iff.mpr ⟨_, hEarlier, hOther⟩, hName⟩]
      exact List.mem_append_left _ (List.mem_singleton_self _)
    | @rule i j f c _ hField hNamed hConstraint hRule =>
      refine mem_located_of_mem_locatedAt hField ?_
      rw [locatedAt, if_neg (by simp [hNamed])]
      refine List.mem_append_right _ (List.mem_flatMap.mpr ⟨(c, j), ?_, ?_⟩)
      · exact List.mem_zipIdx_iff_getElem?.mpr hConstraint
      · exact List.mem_map.mpr ⟨defect, (c.rule.mem_defects_iff d f defect).mpr hRule, rfl⟩

theorem pairwise_zipIdx {α : Type} (items : List α) : items.zipIdx.Pairwise fun a b => a.2 < b.2 := by
  rw [← List.pairwise_map, List.zipIdx_map_snd]
  exact List.pairwise_lt_range' 1

theorem exists_key_of_mem_locatedAt {i : Nat} {f : FieldDeclaration} {e : Located}
    (he : e ∈ d.locatedAt i f) : ∃ rest, Located.key e = i :: rest := by
  rw [locatedAt] at he
  split at he
  · obtain rfl := List.mem_singleton.mp he
    exact ⟨[], rfl⟩
  · rcases List.mem_append.mp he with he | he
    · split at he
      · obtain rfl := List.mem_singleton.mp he
        exact ⟨[], rfl⟩
      · cases he
    · obtain ⟨⟨c, j⟩, -, he⟩ := List.mem_flatMap.mp he
      obtain ⟨x, -, rfl⟩ := List.mem_map.mp he
      exact ⟨[j, x.rank], rfl⟩

theorem rules_pairwise (i : Nat) (f : FieldDeclaration) :
    (f.constraints.zipIdx.flatMap fun e =>
      (e.1.rule.defects d f).map (Prod.mk (Place.constraint i e.2))).Pairwise Located.Precedes := by
  rw [List.pairwise_flatMap]
  constructor
  · rintro ⟨c, j⟩ -
    rw [List.pairwise_map]
    refine (c.rule.defects_pairwise d f).imp fun hRank => ?_
    simp [Located.Precedes, Located.key, List.cons_lt_cons_iff, hRank]
  · refine (pairwise_zipIdx f.constraints).imp ?_
    rintro ⟨c, j⟩ ⟨c', j'⟩ hLt a ha b hb
    obtain ⟨x, -, rfl⟩ := List.mem_map.mp ha
    obtain ⟨y, -, rfl⟩ := List.mem_map.mp hb
    exact List.cons_lt_cons_iff.mpr (.inr ⟨rfl, List.cons_lt_cons_iff.mpr (.inl hLt)⟩)

theorem locatedAt_pairwise (i : Nat) (f : FieldDeclaration) :
    (d.locatedAt i f).Pairwise Located.Precedes := by
  rw [locatedAt]
  split
  · exact List.pairwise_singleton _ _
  · refine List.pairwise_append.mpr ⟨?_, rules_pairwise i f, ?_⟩
    · split
      · exact List.pairwise_singleton _ _
      · exact .nil
    · intro a ha b hb
      split at ha
      · obtain rfl := List.mem_singleton.mp ha
        obtain ⟨⟨c, j⟩, -, hb⟩ := List.mem_flatMap.mp hb
        obtain ⟨y, -, rfl⟩ := List.mem_map.mp hb
        simp [Located.Precedes, Located.key]
      · cases ha

theorem located_pairwise : d.located.Pairwise Located.Precedes := by
  refine List.pairwise_append.mpr ⟨?_, List.pairwise_flatMap.mpr ⟨fun e _ => locatedAt_pairwise e.2 e.1, ?_⟩, ?_⟩
  · rw [nameDefect]
    split
    · exact List.pairwise_singleton _ _
    · exact .nil
  · refine (pairwise_zipIdx d.fields).imp ?_
    intro e e' hLt a ha b hb
    obtain ⟨_, hKey⟩ := exists_key_of_mem_locatedAt ha
    obtain ⟨_, hKey'⟩ := exists_key_of_mem_locatedAt hb
    rw [Located.Precedes, hKey, hKey', List.cons_lt_cons_iff]
    exact .inl hLt
  · intro a ha b hb
    obtain ⟨x, -, rfl⟩ := List.mem_map.mp ha
    obtain ⟨e, -, hb⟩ := List.mem_flatMap.mp hb
    obtain ⟨_, hKey⟩ := exists_key_of_mem_locatedAt hb
    rw [Located.Precedes, hKey]
    exact List.nil_lt_cons _ _

theorem isAccepted_iff_no_defect : d.isAccepted = true ↔ ∀ place defect, ¬ d.HasDefect place defect := by
  rw [isAccepted_iff, ← map_located, List.map_eq_nil_iff, List.eq_nil_iff_forall_not_mem]
  constructor
  · exact fun h place defect hDefect => h (place, defect) ((mem_located_iff place defect).mpr hDefect)
  · exact fun h e he => h e.1 e.2 ((mem_located_iff e.1 e.2).mp he)

theorem WellFormed.no_defect (h : d.WellFormed) (place : Place) (defect : Defect) :
    ¬ d.HasDefect place defect := by
  intro hDefect
  cases hDefect with
  | modelName hBlank => exact absurd hBlank (by simp [h.model_named])
  | fieldName hField hBlank =>
    exact absurd hBlank (by simp [h.fields_named _ (List.mem_of_getElem? hField)])
  | @repeated i j f g hField hNamed hEarlier hOther hName =>
    obtain ⟨hi, rfl⟩ := List.getElem?_eq_some_iff.mp hField
    obtain ⟨hj, rfl⟩ := List.getElem?_eq_some_iff.mp hOther
    exact List.pairwise_iff_getElem.mp h.names_distinct j i hj hi hEarlier hName
  | @rule i j f c _ hField hNamed hConstraint hRule =>
    have hf := List.mem_of_getElem? hField
    have hc := List.mem_of_getElem? hConstraint
    have hSibling := h.siblings_declared f hf c hc
    generalize hEq : c.rule = r at hRule hSibling
    cases hRule with
    | type hFits => exact hFits (hEq ▸ h.rules_fit f hf c hc)
    | length hOrder =>
      exact absurd (h.lengths_ordered f hf c hc _ _ hEq) (UInt64.not_le.mpr hOrder)
    | range hBounds => exact hBounds (h.ranges_ordered f hf c hc _ _ hEq)
    | conditionalRange hBounds => exact hBounds (h.conditions_ordered f hf c hc _ _ _ _ hEq)
    | extensions => exact (h.sets_filled f hf c hc).1 hEq
    | values => exact (h.sets_filled f hf c hc).2 hEq
    | selfReference hSelf => exact (hSibling _ hSelf).1 rfl
    | danglingReference hOther _ hMissing =>
      obtain ⟨g, hg, hName⟩ := (hSibling _ hOther).2
      exact hMissing g hg hName

theorem wellFormed_of_no_defect (h : ∀ place defect, ¬ d.HasDefect place defect) : d.WellFormed := by
  have hNamed (f : FieldDeclaration) (hf : f ∈ d.fields) : Text.blank f.name = false := by
    obtain ⟨i, hField⟩ := List.mem_iff_getElem?.mp hf
    exact Bool.eq_false_iff.mpr fun hBlank => h _ _ (.fieldName hField hBlank)
  have hRule {f : FieldDeclaration} (hf : f ∈ d.fields) {c : Constraint} (hc : c ∈ f.constraints)
      {r : Rule} (hEq : c.rule = r) {x : Defect} : ¬ r.HasDefect d f x := by
    subst hEq
    obtain ⟨i, hField⟩ := List.mem_iff_getElem?.mp hf
    obtain ⟨j, hConstraint⟩ := List.mem_iff_getElem?.mp hc
    exact fun hx => h _ _ (.rule hField (hNamed f hf) hConstraint hx)
  refine
    { model_named := Bool.eq_false_iff.mpr fun hBlank => h _ _ (.modelName hBlank)
      fields_named := hNamed
      names_distinct := ?_
      rules_fit := ?_
      lengths_ordered := ?_
      ranges_ordered := ?_
      conditions_ordered := ?_
      sets_filled := ?_
      siblings_declared := ?_ }
  · refine List.pairwise_iff_getElem.mpr fun j i hj hi hLt hName => ?_
    exact h _ _ (.repeated (List.getElem?_eq_getElem hi) (hNamed _ (List.getElem_mem hi)) hLt
      (List.getElem?_eq_getElem hj) hName)
  · intro f hf c hc
    exact Classical.byContradiction fun hFits => hRule hf hc rfl (.type hFits)
  · intro f hf c hc min max hEq
    exact UInt64.not_lt.mp fun hOrder => hRule hf hc hEq (.length hOrder)
  · intro f hf c hc min max hEq
    exact Classical.byContradiction fun hBounds => hRule hf hc hEq (.range hBounds)
  · intro f hf c hc other target min max hEq
    exact Classical.byContradiction fun hBounds => hRule hf hc hEq (.conditionalRange hBounds)
  · intro f hf c hc
    exact ⟨fun hEq => hRule hf hc hEq .extensions, fun hEq => hRule hf hc hEq .values⟩
  · intro f hf c hc other hSibling
    have hOther : other ≠ f.name := fun hEq => hRule hf hc rfl (.selfReference (hEq ▸ hSibling))
    refine ⟨hOther, Classical.byContradiction fun hNone => ?_⟩
    exact hRule hf hc rfl (.danglingReference hSibling hOther fun g hg hName => hNone ⟨g, hg, hName⟩)

theorem isAccepted_iff_wellFormed : d.isAccepted = true ↔ d.WellFormed :=
  isAccepted_iff_no_defect.trans ⟨wellFormed_of_no_defect, WellFormed.no_defect⟩

/-- The check accepts a declaration exactly if it is well formed. Otherwise its errors are the defects of the
declaration, each of them once, in the order of their places. -/
theorem errors_exhaustive (d : ModelDeclaration) :
    (d.errors = [] ↔ d.WellFormed) ∧
    ∃ found : List Located, found.Pairwise Located.Precedes ∧
      (∀ place defect, (place, defect) ∈ found ↔ d.HasDefect place defect) ∧
      d.errors = found.map fun e => ⟨d.name, e.2⟩ := by
  refine ⟨(errors_eq_nil_iff d).trans isAccepted_iff_wellFormed, d.located, located_pairwise,
    mem_located_iff, ?_⟩
  rw [errors, ← map_located, List.map_map]
  rfl

end ModelDeclaration
end FieldRules
