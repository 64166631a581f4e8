import FieldRules.Proofs.Document.Json
import FieldRules.Proofs.Rule.Stored

/-!
# Two readers of values

A stored value is of the first kind that takes it, and the value of a plain tree is told by its node. The two readers
agree on scalars. Of lists and maps the first one takes the two forms of a date, and the second one keeps the text.
-/
set_option autoImplicit false

namespace FieldRules

namespace Document

def isScalar : Document → Bool
  | null | bool _ | int _ | float _ | text _ => true
  | _ => false

end Document

namespace Value

namespace Kind

def null? (d : Document) : Option Value :=
  match d.meaning with
  | .null => some null
  | _ => none

def bool? (d : Document) : Option Value :=
  match d.meaning with
  | .bool b => some (bool b)
  | _ => none

def int? (d : Document) : Option Value :=
  match d.meaning with
  | .int i => if (IntKind.signed 64).holds i then some (int (Int64.ofInt i)) else none
  | _ => none

def float? (d : Document) : Option Value :=
  d.double?.map float

def text? (d : Document) : Option Value :=
  match d.meaning with
  | .text s => some (text s)
  | _ => none

/-- A structure whose one member is a date, by its name or by its place. -/
def date? (d : Document) : Option Value :=
  match d.meaning with
  | .map [(key, d)] => if key == "date" then storedDate? d else none
  | .list [d] => storedDate? d
  | _ => none

def all : List (Document → Option Value) :=
  [null?, bool?, int?, float?, text?, date?]

end Kind

/-- Every kind is tried, and the first one that takes the node gives the value. An integer that does not fit falls to
the numbers. -/
theorem ofDocument?_eq_findSome? (d : Document) : ofDocument? d = Kind.all.findSome? fun read => read d := by
  simp only [ofDocument?, Kind.all, Kind.null?, Kind.bool?, Kind.int?, Kind.float?, Kind.text?, Kind.date?,
    Document.double?, List.findSome?_cons, List.findSome?_nil]
  generalize d.meaning = e
  cases e with
  | int i =>
    dsimp only [ofInt]
    split
    · rfl
    · rfl
  | list items =>
    rcases items with _ | ⟨item, _ | ⟨second, rest⟩⟩
    · rfl
    · dsimp only [Option.map_none]
      cases storedDate? item <;> rfl
    · rfl
  | map entries =>
    rcases entries with _ | ⟨⟨key, member⟩, _ | ⟨second, rest⟩⟩
    · rfl
    · dsimp only [Option.map_none]
      split
      · cases storedDate? member <;> rfl
      · rfl
    · rfl
  | _ => rfl

theorem storedDate?_eq_some_iff {d : Document} (h : d.isJson = true) (v : Value) :
    storedDate? d = some v ↔ ∃ s t, d = .text s ∧ Instant.readStored? s = some t ∧ v = date t := by
  rw [storedDate?, Document.meaning_of_isJson h]
  cases d with
  | text s => simp [Option.map_eq_some_iff, eq_comm (a := v)]
  | _ => simp

theorem ofDocument?_eq_some_iff {d : Document} (h : d.isJson = true) (hParts : d.isScalar = false) (v : Value) :
    ofDocument? d = some v ↔ ∃ s t, (d = .map [("date", .text s)] ∨ d = .list [.text s]) ∧
      Instant.readStored? s = some t ∧ v = date t := by
  rw [ofDocument?, Document.meaning_of_isJson h]
  cases d with
  | list items =>
    have hItems := (Document.isJsonItems_iff items).mp (Bool.and_eq_true_iff.mp h).2
    rcases items with _ | ⟨item, _ | ⟨second, rest⟩⟩
    · simp
    · simp [storedDate?_eq_some_iff (hItems item List.mem_cons_self)]
    · simp
  | map entries =>
    rcases entries with _ | ⟨⟨key, member⟩, _ | ⟨second, rest⟩⟩
    · simp
    · have hMember : member.isJson = true := (Document.isJsonEntries_iff _).mp h (key, member) List.mem_cons_self
      by_cases hKey : key = "date"
      · simp [storedDate?_eq_some_iff hMember, hKey]
      · simp [hKey]
    · simp
  | null | bool | int | float | text => cases hParts
  | word | tagged | irregular => cases h

theorem ofDocument?_eq_ofPlain {d : Document} (h : d.isScalar = true) : ofDocument? d = some (ofPlain d) := by
  cases d with
  | null | bool | int | float | text => rfl
  | _ => cases h

theorem ofPlain_eq_print {d : Document} (hJson : d.isJson = true) (h : d.isScalar = false) :
    ofPlain d = text (Json.print d) := by
  cases d with
  | list | map => rfl
  | null | bool | int | float | text => cases h
  | word | tagged | irregular => cases hJson

/-- No date, and no number that JSON does not have. -/
structure IsPlain (v : Value) : Prop where
  not_date : ∀ t, v ≠ date t
  finite : ∀ x, v = float x → x.isFinite = true

theorem IsPlain.isStorable {v : Value} (h : v.IsPlain) : v.IsStorable := by
  cases v with
  | float x => exact h.finite x rfl
  | date t => exact absurd rfl (h.not_date t)
  | null | bool | int | text => trivial

theorem IsPlain.toPlain_eq {v : Value} (h : v.IsPlain) : v.toPlain = v.toDocument := by
  cases v with
  | date t => exact absurd rfl (h.not_date t)
  | null | bool | int | float | text => rfl

theorem IsPlain.isScalar_toDocument {v : Value} (h : v.IsPlain) : v.toDocument.isScalar = true := by
  cases v with
  | float x => rw [toDocument, Document.number, if_pos (h.finite x rfl)]; rfl
  | date t => exact absurd rfl (h.not_date t)
  | null | bool | int | text => rfl

theorem IsPlain.ofPlain_toDocument {v : Value} (h : v.IsPlain) : ofPlain v.toDocument = v := by
  have hRead := ofDocument?_toDocument h.isStorable
  rw [ofDocument?_eq_ofPlain h.isScalar_toDocument] at hRead
  exact Option.some.inj hRead

/-- On a tree of JSON, the reader of stored values takes the first kind of value that fits. Of a scalar both readers
make the same value. Of a list or map only the two forms of a date are stored values, and the reader of plain trees
keeps the text. Every value that is no date and has a JSON form is read back by both, from what is stored for it as
from its plain form. -/
theorem readers_agree {d : Document} (hJson : d.isJson = true) :
    ofDocument? d = Kind.all.findSome? (fun read => read d) ∧
      (d.isScalar = true → ofDocument? d = some (ofPlain d)) ∧
      (d.isScalar = false → ofPlain d = text (Json.print d) ∧
        ∀ v, ofDocument? d = some v ↔ ∃ s t, (d = .map [("date", .text s)] ∨ d = .list [.text s]) ∧
          Instant.readStored? s = some t ∧ v = date t) ∧
      ∀ v : Value, v.IsPlain → (ofDocument? v.toDocument = some v ∧ ofPlain v.toDocument = v) ∧
        ofDocument? v.toPlain = some v ∧ ofPlain v.toPlain = v := by
  refine ⟨ofDocument?_eq_findSome? d, ofDocument?_eq_ofPlain, fun hParts => ?_, fun v hPlain => ?_⟩
  · exact ⟨ofPlain_eq_print hJson hParts, ofDocument?_eq_some_iff hJson hParts⟩
  · rw [hPlain.toPlain_eq]
    have hRead := ofDocument?_toDocument hPlain.isStorable
    exact ⟨⟨hRead, hPlain.ofPlain_toDocument⟩, hRead, hPlain.ofPlain_toDocument⟩

theorem readers_agree_date :
    (Document.map [("date", .text "2030-01-01T02:00:00+02:00")]).isJson = true ∧
      ofPlain (.map [("date", .text "2030-01-01T02:00:00+02:00")]) =
        text "\x7b\"date\":\"2030-01-01T02:00:00+02:00\"\x7d" ∧
      ofDocument? (.map [("date", .text "2030-01-01T02:00:00+02:00")]) = some (date ⟨1893456000, 0, by decide⟩) := by
  have hJson : (Document.map [("date", .text "2030-01-01T02:00:00+02:00")]).isJson = true := by decide
  obtain ⟨-, -, hParts, -⟩ := readers_agree hJson
  obtain ⟨hPrint, hRead⟩ := hParts rfl
  refine ⟨hJson, hPrint.trans (by decide +kernel), (hRead _).mpr ⟨_, _, .inl rfl, ?_, rfl⟩⟩
  decide +kernel

/-- The date of a list of its own is read by its place. -/
theorem ofDocument?_date_in_list :
    (Document.list [.text "2030-01-01T00:00:00Z"]).isJson = true ∧
      (Document.list [.text "2030-01-01T00:00:00Z"]).isScalar = false ∧
      ofDocument? (.list [.text "2030-01-01T00:00:00Z"]) = some (date ⟨1893456000, 0, by decide⟩) := by
  decide +kernel

end Value
end FieldRules
