import FieldRules.Proofs.Calendar.Stored
import FieldRules.Proofs.Document.Members
import FieldRules.Proofs.Value.Views
import FieldRules.Rule.Document

/-!
# Stored values, rules and constraints

A value without a stored form is a number that is not finite or a date that no stored text names. A
constraint without such values is read back from its document as it was written.
-/
set_option autoImplicit false

namespace FieldRules

open Document (keys read_bind unlessNone)

namespace Value

def IsStorable : Value → Prop
  | float x => x.isFinite = true
  | date t => t.IsStorable
  | _ => True

theorem ofInt_toInt (i : Int64) : ofInt i.toInt = int i := by
  have hLow := i.le_toInt
  have hHigh := i.toInt_lt
  have hHolds : (IntKind.signed 64).holds i.toInt = true :=
    (IntKind.holds_iff (.signed 64) _).mpr ⟨hLow, Int.le_sub_one_of_lt hHigh⟩
  rw [ofInt, if_pos hHolds, Int64.ofInt_toInt]

theorem ofDocument?_toDocument {v : Value} (h : v.IsStorable) : ofDocument? v.toDocument = some v := by
  cases v with
  | null => rfl
  | bool b => rfl
  | int i => exact congrArg some (ofInt_toInt i)
  | float x =>
    have hFinite : x.isFinite = true := h
    simp [toDocument, Document.number, hFinite, ofDocument?, Document.meaning]
  | text s => rfl
  | date t =>
    have hStored : t.IsStorable := h
    simp [toDocument, ofDocument?, Document.meaning, storedDate?, Instant.readStored?_stored hStored]

theorem resolved?_toDocument (v : Value) : v.toDocument.resolved? = some v.toDocument := by
  cases v with
  | float x =>
    simp only [toDocument, Document.number]
    split <;> rfl
  | null | bool | int | text | date => rfl

end Value

theorem Document.size?_size (n : UInt64) : (Document.size n).size? = some n := by
  have hHolds : (IntKind.unsigned 64).holds n.toNat = true :=
    (IntKind.holds_iff (.unsigned 64) _).mpr
      ⟨Int.natCast_nonneg _, Int.le_sub_one_of_lt (Int.ofNat_lt.mpr n.toNat_lt)⟩
  simp [Document.size, Document.size?, Document.meaning, hHolds]

theorem Document.double?_number {x : Double} (h : x.isFinite = true) :
    (Document.number x).double? = some x := by
  simp [Document.number, h, Document.double?, Document.meaning]

theorem Document.resolved?_number (x : Double) : (Document.number x).resolved? = some (Document.number x) := by
  unfold Document.number
  split <;> rfl

theorem Severity.ofDocument?_toDocument (s : Severity) : Severity.ofDocument? .entry s.toDocument = some s :=
  Severity.ofName?_name s

theorem MessageSource.ofDocument?_toDocument (m : MessageSource) :
    MessageSource.ofDocument? .entry m.toDocument = some m := by
  cases m <;> rfl

namespace Rule

def IsStorable : Rule → Prop
  | range min max => min.isFinite = true ∧ max.isFinite = true
  | requiredIf _ target => target.IsStorable
  | conditionalRange _ target min max => target.IsStorable ∧ min.isFinite = true ∧ max.isFinite = true
  | _ => True

theorem items?_texts (items : List String) : (texts items).items? Document.text? = some items :=
  Document.items?_list fun _ _ => rfl

theorem resolved?_texts (items : List String) : (texts items).resolved? = some (texts items) := by
  have hItems : ∀ d ∈ items.map Document.text, d.resolved? = some d := by
    intro d hd
    obtain ⟨s, -, rfl⟩ := List.mem_map.mp hd
    rfl
  rw [texts, Document.resolved?, Document.resolvedItems?_eq_self hItems, Option.map_some]

theorem keys_members_append_nodup (r : Rule) : (keys r.members ++ Constraint.ownMembers).Nodup := by
  cases r <;> simp [keys, members, parameters, Constraint.ownMembers]

theorem once_members (r : Rule) (names : List String) : once names r.members = some r.members :=
  Document.members?_map r.members names (List.nodup_append.mp r.keys_members_append_nodup).1

theorem resolvedEntries?_members (r : Rule) : Document.resolvedEntries? r.members = some r.members := by
  cases r <;>
    simp [members, parameters, Document.resolvedEntries?, Document.resolved?, Document.size, resolved?_texts,
      Document.resolved?_number, Value.resolved?_toDocument]

theorem ofName?_members {r : Rule} (h : r.IsStorable) : ofName? r.name r.members = some r := by
  have hOnce (names : List String) := r.once_members names
  cases r with
  | required | email | url | creditCard | phone | futureDate => rfl
  | length min max =>
    simp only [name, ofName?, hOnce]
    simp [members, parameters, Members.orElse, Members.required, Document.size?_size]
  | range min max =>
    obtain ⟨hMin, hMax⟩ := h
    simp only [name, ofName?, hOnce]
    simp [members, parameters, Members.required, Document.double?_number, hMin, hMax]
  | fileExtension extensions =>
    simp only [name, ofName?, hOnce]
    simp [members, parameters, Members.required, items?_texts]
  | allowedValues values =>
    simp only [name, ofName?, hOnce]
    simp [members, parameters, Members.required, items?_texts]
  | requiredIf other target =>
    simp only [name, ofName?, hOnce]
    simp [members, parameters, Members.required, Document.text?, Document.untagged,
      Value.ofDocument?_toDocument h]
  | conditionalRange other target min max =>
    obtain ⟨hTarget, hMin, hMax⟩ := h
    simp only [name, ofName?, hOnce]
    simp [members, parameters, Members.required, Document.text?, Document.untagged,
      Value.ofDocument?_toDocument hTarget, Document.double?_number, hMin, hMax]

theorem ofMembers?_members {r : Rule} (h : r.IsStorable) : ofMembers? nameOrPosition? r.members = some r := by
  have hKind : Members.required r.members "kind" nameOrPosition? = some r.name :=
    Members.required_eq_some (Members.get?_cons ..) rfl
  simp [ofMembers?, resolvedEntries?_members, once_members, hKind, ofName?_members h]

end Rule

namespace Constraint

def ownEntries (c : Constraint) : Members :=
  unlessNone "message" MessageSource.toDocument c.message ++ [("severity", c.severity.toDocument)] ++
    unlessNone "group" .text c.group

theorem members_eq (c : Constraint) : c.members = c.rule.members ++ c.ownEntries := by
  simp only [members, ownEntries, List.append_assoc]

theorem keys_members_nodup (c : Constraint) : (keys c.members).Nodup := by
  have hOwn : (keys c.ownEntries).Sublist ownMembers := by
    rw [keys, ownEntries, List.map_append, List.map_append]
    exact ((Document.keys_unlessNone_sublist ..).append (.refl _)).append (Document.keys_unlessNone_sublist ..)
  rw [members_eq, keys, List.map_append]
  exact ((List.Sublist.refl _).append hOwn).nodup c.rule.keys_members_append_nodup

theorem filter_members (c : Constraint) :
    (c.members.filter fun e => !ownMembers.contains e.1) = c.rule.members := by
  have hRule : (c.rule.members.filter fun e => !ownMembers.contains e.1) = c.rule.members := by
    cases c.rule <;> simp [Rule.members, Rule.parameters, ownMembers]
  have hOwn : (c.ownEntries.filter fun e => !ownMembers.contains e.1) = [] := by
    simp only [ownEntries]
    cases c.message <;> cases c.group <;> simp [unlessNone, ownMembers]
  rw [members_eq, List.filter_append, hRule, hOwn, List.append_nil]

/-- What a constraint adds to its rule is not hidden by a parameter of the rule. -/
theorem get?_members (c : Constraint) {name : String} (h : name ∈ ownMembers) :
    Members.get? c.members name = Members.get? c.ownEntries name := by
  have hRule : Members.get? c.rule.members name = none :=
    Members.get?_eq_none fun hKey => (List.nodup_append.mp c.rule.keys_members_append_nodup).2.2 _ hKey _ h rfl
  rw [members_eq, Members.get?_append, hRule, Option.none_or]

theorem ofDocument?_toDocument {c : Constraint} (h : c.rule.IsStorable) :
    ofDocument? .entry c.toDocument = some c := by
  have hOnce : Rule.once ownMembers c.members = some c.members :=
    Document.members?_map c.members ownMembers c.keys_members_nodup
  have hMessage : Members.optional c.members "message" (MessageSource.ofDocument? .entry) = some c.message := by
    refine Members.optional_unlessNone MessageSource.toDocument ?_ ?_ ?_
    · rw [get?_members c (by decide)]
      simp [ownEntries]
    · intro m _
      cases m <;> rfl
    · intro m _
      exact m.ofDocument?_toDocument
  have hSeverity : Members.orElse c.members "severity" (Severity.ofDocument? .entry) .error =
      some c.severity := by
    refine Members.orElse_eq_some (d := c.severity.toDocument) ?_ c.severity.ofDocument?_toDocument
    rw [get?_members c (by decide)]
    simp [ownEntries]
  have hGroup : Members.optional c.members "group" Document.text? = some c.group := by
    refine Members.optional_unlessNone .text ?_ (fun _ _ => rfl) (fun _ _ => rfl)
    rw [get?_members c (by decide)]
    simp [ownEntries]
  have hMap : c.toDocument.map? = some c.members := rfl
  -- the rule is read from the members that the constraint does not claim for itself
  have hRule := Rule.ofMembers?_members h
  rw [← filter_members] at hRule
  rw [ofDocument?, hMap, Option.bind_some, ofMembers?, read_bind hOnce, read_bind hMessage, read_bind hSeverity,
    read_bind hGroup, read_bind hRule]

end Constraint
end FieldRules
