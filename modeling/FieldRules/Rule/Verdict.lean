import FieldRules.Rule.Basic
import FieldRules.Value.Access

/-!
# Verdicts

What each rule says about a field. Rules read the field through its views, so they apply to typed fields
and to dynamic values alike; `Rule.holds` gathers them.
-/
set_option autoImplicit false

namespace FieldRules

namespace Verdict

variable {α β : Type} [FieldValue α] [FieldValue β]

/-- The text of a field, from its own view or else from its value. -/
def textView (a : α) : Option String :=
  (FieldValue.text? a).or (FieldValue.toValue a).text?

def numberView (a : α) : Option Double :=
  (FieldValue.number? a).or (FieldValue.toValue a).number?

/-- The instant of a field; a text of a dynamic value is not one. -/
def instantView (a : α) : Option Instant :=
  (FieldValue.instant? a).or
    (match FieldValue.toValue a with
      | .date t => some t
      | _ => none)

/-- The text that a format rule looks at; null and the empty text are passed over. -/
def presentText (a : α) : Option String :=
  if FieldValue.isNull a then none
  else
    match (FieldValue.text? a).or (FieldValue.display? a) with
    | some s => if s.isEmpty then none else some s
    | none => none

def required (a : α) : Bool :=
  !FieldValue.isNull a &&
    match textView a with
    | some s => !Text.blank s
    | none => true

def length (min max : UInt64) (a : α) : Bool :=
  FieldValue.isNull a ||
    match textView a with
    | some s => min.toNat ≤ s.length && s.length ≤ max.toNat
    | none => true

def between (min max x : Double) : Bool :=
  min.atMost x && x.atMost max

def range (min max : Double) (a : α) : Bool :=
  FieldValue.isNull a ||
    match numberView a with
    | some x => between min max x
    | none =>
      match textView a with
      | some s =>
        match Value.textNumber? s with
        | some x => between min max x
        | none => false
      | none => true

def format (test : List Char → Bool) (a : α) : Bool :=
  match presentText a with
  | some s => test s.toList
  | none => true

def isAddressChar (c : Char) : Bool :=
  c != '@' && !Text.isBlank c

/-- `local@host.tld`: one at sign, no white space, and a dot inside the part after it. -/
def isEmail (s : List Char) : Bool :=
  let name := s.takeWhile (· != '@')
  let domain := (s.dropWhile (· != '@')).drop 1
  !name.isEmpty && name.all isAddressChar && domain.all isAddressChar &&
    (domain.drop 1).dropLast.contains '.'

/-- A web scheme in any case, and something after it. -/
def isUrl (s : List Char) : Bool :=
  let lower := s.map Char.toLower
  ["http://", "https://"].any fun scheme =>
    scheme.toList.isPrefixOf lower && scheme.toList.length < lower.length

/-- 13 to 19 digits, with dashes and spaces anywhere. -/
def isCreditCard (s : List Char) : Bool :=
  let kept := s.filter fun c => c != '-' && c != ' '
  kept.all Char.isDigit && 13 ≤ kept.length && kept.length ≤ 19

def isPhone (s : List Char) : Bool :=
  s.all fun c => c.isDigit || c == ' ' || c == '-' || c == '+' || c == '(' || c == ')'

def isSeparator (c : Char) : Bool :=
  c == '/' || c == '\\'

def splitLastDot? (s : List Char) : Option (List Char × List Char) :=
  let after := (s.reverse.takeWhile (· != '.')).reverse
  match s.reverse.dropWhile (· != '.') with
  | _ :: before => some (before.reverse, after)
  | [] => none

def extensionName (declared : String) : String :=
  String.ofList (declared.toList.dropWhile (· == '.'))

/-- The extension after the last dot of a text is a declared one, in any case. A dot right after a
separator starts no extension. -/
def hasExtension (extensions : List String) (s : List Char) : Bool :=
  match splitLastDot? s with
  | none => false
  | some (stem, extension) =>
    !extension.isEmpty && !stem.getLast?.any isSeparator &&
      extensions.any fun declared =>
        Value.sameIgnoringCase (extensionName declared) (String.ofList extension)

def futureDate (now : Instant) (a : α) : Bool :=
  FieldValue.isNull a ||
    match instantView a with
    | some t => now.isBefore t
    | none =>
      match textView a with
      | some s => (Instant.read? s).any now.isBefore
      | none => false

def allowedValues (values : List String) (a : α) : Bool :=
  FieldValue.isNull a ||
    match FieldValue.display? a with
    | some s => values.contains s
    | none => true

def conditionMet (target : Value) (sibling : β) : Bool :=
  (FieldValue.toValue sibling).looseEq target

end Verdict

def Rule.holds {α β : Type} [FieldValue α] [FieldValue β] (now : Instant) (sibling : β) (a : α) :
    Rule → Bool
  | required => Verdict.required a
  | length min max => Verdict.length min max a
  | range min max => Verdict.range min max a
  | email => Verdict.format Verdict.isEmail a
  | url => Verdict.format Verdict.isUrl a
  | creditCard => Verdict.format Verdict.isCreditCard a
  | phone => Verdict.format Verdict.isPhone a
  | fileExtension extensions => Verdict.format (Verdict.hasExtension extensions) a
  | futureDate => Verdict.futureDate now a
  | allowedValues values => Verdict.allowedValues values a
  | requiredIf _ target => !Verdict.conditionMet target sibling || Verdict.required a
  | conditionalRange _ target min max =>
    !Verdict.conditionMet target sibling || Verdict.range min max a

def Rule.passes (now : Instant) (sibling : Option Value) (v : Value) (r : Rule) : Bool :=
  r.holds now (sibling.getD .null) v

end FieldRules
