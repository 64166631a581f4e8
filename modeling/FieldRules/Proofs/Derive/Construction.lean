import FieldRules.Derive.Data
import FieldRules.Proofs.Declaration.Saved
import FieldRules.Proofs.Source.Form
import FieldRules.Proofs.Value.Views

/-!
# Reading declarations and summaries from code

What an expression in generated code builds, by the type that is asked for. A path has to be the one of the
variant or the structure, a structure has to give each of its members once, and the type behind a number has to
be the one that stands there. The code of a declaration or of a summary builds just that declaration or summary.
-/
set_option autoImplicit false

namespace FieldRules

namespace Source.Form

def read? {α : Type} (read : Form → Option α) (trees : List Tree) : Option α :=
  (ofTrees? trees).bind read

def text? : Form → Option String
  | literal false ⟨_, .text s⟩ => some s
  | _ => none

def flag? : Form → Option Bool
  | flag b => some b
  | _ => none

def hasType (type : String) (l : Literal) : Bool :=
  type.toList.isSuffixOf l.spelling.toList

def withSign (negative : Bool) (n : Nat) : Int :=
  if negative then -(n : Int) else n

def size? : Form → Option UInt64
  | literal false ⟨spelling, .int n⟩ =>
    if hasType "usize" ⟨spelling, .int n⟩ && (IntKind.unsigned 64).holds n then some (UInt64.ofNat n)
    else none
  | _ => none

def int? : Form → Option Int64
  | literal negative ⟨spelling, .int n⟩ =>
    if hasType "i64" ⟨spelling, .int n⟩ && (IntKind.signed 64).holds (withSign negative n) then
      some (Int64.ofInt (withSign negative n))
    else none
  | _ => none

def float? : Form → Option Double
  | literal negative ⟨spelling, .float x⟩ =>
    if hasType "f64" ⟨spelling, .float x⟩ then some (if negative then x.neg else x) else none
  | path ["core", "primitive", "f64", name] =>
    match name with
    | "NAN" => some .nan
    | "INFINITY" => some (.infinite false)
    | "NEG_INFINITY" => some (.infinite true)
    | _ => none
  | _ => none

def owned? : Form → Option String
  | call ["std", "string", "String", "from"] [content] => read? text? content
  | _ => none

def option? {α : Type} (read : Form → Option α) : Form → Option (Option α)
  | path ["core", "option", "Option", "None"] => some none
  | call ["core", "option", "Option", "Some"] [content] => (read? read content).map some
  | _ => none

def items? {α : Type} (read : Form → Option α) : Form → Option (List α)
  | vector items => items.mapM (read? read)
  | _ => none

def variant? (type : String) : Form → Option String
  | path ["precheck", name, variant] => if name = type then some variant else none
  | _ => none

def struct? (names : List String) (path : List String) : Form → Option (List (String × List Tree))
  | struct given members =>
    if given = path ∧ (members.map Prod.fst).isPerm names then some members else none
  | _ => none

def get? {α : Type} (name : String) (read : Form → Option α) (members : List (String × List Tree)) :
    Option α :=
  (members.lookup name).bind (read? read)

end Source.Form

open Source Form Derive

/-- The date that a text in generated code spells; what is no date stays a text. -/
def Value.ofDateText (s : String) : Value :=
  match Instant.readExact? s.toList with
  | some t => .date t
  | none => .text s

def Value.ofForm? : Form → Option Value
  | .path ["precheck", "Value", "Null"] => some .null
  | .call ["precheck", "Value", variant] [content] =>
    match variant with
    | "Bool" => (read? flag? content).map .bool
    | "Int" => (read? int? content).map .int
    | "Float" => (read? float? content).map .float
    | "String" => (read? owned? content).map .text
    | _ => none
  | .call ["precheck", "__private", "datetime_value"] [content] => (read? Form.text? content).map ofDateText
  | _ => none

def Severity.ofForm? (f : Form) : Option Severity :=
  (f.variant? "Severity").bind fun
    | "Error" => some error
    | "Warning" => some warning
    | "Info" => some info
    | _ => none

def FieldType.ofForm? (f : Form) : Option FieldType :=
  (f.variant? "FieldType").bind fun
    | "String" => some string
    | "Int" => some int
    | "Float" => some float
    | "Bool" => some bool
    | "Date" => some date
    | "Enum" => some enum
    | "Other" => some other
    | _ => none

def Format.ofForm? (f : Form) : Option Format :=
  (f.variant? "FormatKind").bind fun
    | "Email" => some email
    | "Url" => some url
    | "CreditCard" => some creditCard
    | "Phone" => some phone
    | "FileExtension" => some fileExtension
    | "FutureDate" => some futureDate
    | _ => none

def Directive.ofForm? (f : Form) : Option Directive := do
  let m ← f.struct? ["trim", "upper", "lower"] (library ["SanitizeDirective"])
  let trim ← get? "trim" flag? m
  let upper ← get? "upper" flag? m
  let lower ← get? "lower" flag? m
  some { trim, upper, lower }

namespace Rule

def ofVariant? : String → Option Rule
  | "Required" => some required
  | "EmailFormat" => some email
  | "UrlFormat" => some url
  | "CreditCardFormat" => some creditCard
  | "PhoneFormat" => some phone
  | "FutureDate" => some futureDate
  | _ => none

def ofStruct? (variant : String) (f : Form) : Option Rule :=
  let members? (names : List String) := f.struct? names (library ["ConstraintKind", variant])
  match variant with
  | "StringLength" => do
    let m ← members? ["min", "max"]
    some (.length (← get? "min" size? m) (← get? "max" size? m))
  | "Range" => do
    let m ← members? ["min", "max"]
    some (.range (← get? "min" float? m) (← get? "max" float? m))
  | "FileExtension" => do
    let m ← members? ["extensions"]
    some (.fileExtension (← get? "extensions" (items? owned?) m))
  | "AllowedValues" => do
    let m ← members? ["values"]
    some (.allowedValues (← get? "values" (items? owned?) m))
  | "RequiredIf" => do
    let m ← members? ["other", "target"]
    some (.requiredIf (← get? "other" owned? m) (← get? "target" Value.ofForm? m))
  | "ConditionalRange" => do
    let m ← members? ["other", "target", "min", "max"]
    some (.conditionalRange (← get? "other" owned? m) (← get? "target" Value.ofForm? m)
      (← get? "min" float? m) (← get? "max" float? m))
  | _ => none

def ofForm? (f : Form) : Option Rule :=
  match f with
  | .path _ => (f.variant? "ConstraintKind").bind ofVariant?
  | .struct ["precheck", "ConstraintKind", variant] _ => ofStruct? variant f
  | _ => none

end Rule

def MessageSource.ofForm? : Form → Option MessageSource
  | .call ["precheck", "MessageSource", variant] [content] =>
    match variant with
    | "Literal" => (read? owned? content).map literal
    | "Resource" => (read? owned? content).map resource
    | _ => none
  | _ => none

def Constraint.ofForm? (f : Form) : Option Constraint := do
  let m ← f.struct? ["kind", "message", "severity", "group"] (library ["Constraint"])
  let rule ← get? "kind" Rule.ofForm? m
  let message ← get? "message" (option? MessageSource.ofForm?) m
  let severity ← get? "severity" Severity.ofForm? m
  let group ← get? "group" (option? owned?) m
  some { rule, message, severity, group }

def ValidatorRef.ofForm? (f : Form) : Option ValidatorRef := do
  let m ← f.struct? ["name", "is_async"] (library ["CustomValidatorRef"])
  let name ← get? "name" owned? m
  let isAsync ← get? "is_async" flag? m
  some { name, isAsync }

def FieldDeclaration.ofForm? (f : Form) : Option FieldDeclaration := do
  let m ← f.struct?
    ["name", "field_type", "nullable", "display_name", "constraints", "sanitize", "custom_validators"]
    (library ["FieldDeclaration"])
  let name ← get? "name" owned? m
  let fieldType ← get? "field_type" FieldType.ofForm? m
  let nullable ← get? "nullable" flag? m
  let displayName ← get? "display_name" (option? owned?) m
  let constraints ← get? "constraints" (items? Constraint.ofForm?) m
  let sanitize ← get? "sanitize" (option? Directive.ofForm?) m
  let validators ← get? "custom_validators" (items? ValidatorRef.ofForm?) m
  some { name, fieldType, nullable, displayName, constraints, sanitize, validators }

def ModelDeclaration.ofForm? (f : Form) : Option ModelDeclaration := do
  let m ← f.struct? ["name", "fields", "model_hook"] (library ["ModelDeclaration"])
  let name ← get? "name" owned? m
  let fields ← get? "fields" (items? FieldDeclaration.ofForm?) m
  let hook ← get? "model_hook" (option? owned?) m
  some { name, fields, hook }

def Condition.ofForm? (f : Form) : Option Condition := do
  let m ← f.struct? ["other", "target", "required", "numeric_min", "numeric_max"]
    (library ["ConditionSummary"])
  let other ← get? "other" owned? m
  let target ← get? "target" Value.ofForm? m
  let required ← get? "required" flag? m
  let numericMin ← get? "numeric_min" (option? float?) m
  let numericMax ← get? "numeric_max" (option? float?) m
  some { other, target, required, numericMin, numericMax }

def FieldSummary.ofForm? (f : Form) : Option FieldSummary := do
  let m ← f.struct?
    ["name", "display_name", "field_type", "nullable", "has_required", "string_min", "string_max",
      "numeric_min", "numeric_max", "formats", "allowed_values", "file_extensions", "conditions", "groups"]
    (library ["FieldSummary"])
  let name ← get? "name" owned? m
  let displayName ← get? "display_name" owned? m
  let fieldType ← get? "field_type" FieldType.ofForm? m
  let nullable ← get? "nullable" flag? m
  let hasRequired ← get? "has_required" flag? m
  let stringMin ← get? "string_min" (option? size?) m
  let stringMax ← get? "string_max" (option? size?) m
  let numericMin ← get? "numeric_min" (option? float?) m
  let numericMax ← get? "numeric_max" (option? float?) m
  let formats ← get? "formats" (items? Format.ofForm?) m
  let allowedValues ← get? "allowed_values" (items? owned?) m
  let fileExtensions ← get? "file_extensions" (items? owned?) m
  let conditions ← get? "conditions" (items? Condition.ofForm?) m
  let groups ← get? "groups" (items? owned?) m
  some { name, displayName, fieldType, nullable, hasRequired, stringMin, stringMax, numericMin, numericMax,
         formats, allowedValues, fileExtensions, conditions, groups }

def Summary.ofForm? (f : Form) : Option Summary := do
  let m ← f.struct? ["model", "fields"] (library ["ConstraintSummary"])
  let model ← get? "model" owned? m
  let fields ← get? "fields" (items? FieldSummary.ofForm?) m
  some { model, fields }

open Document (read_bind)

namespace Source.Form

theorem read?_eq {α : Type} {trees : List Tree} {f : Form} (h : ofTrees? trees = some f)
    (read : Form → Option α) : read? read trees = read f := by
  rw [read?, h, Option.bind_some]

section Atoms

theorem hasType_append (type digits : String) (value : LiteralValue) :
    hasType type ⟨digits ++ type, value⟩ = true := by
  rw [hasType, String.toList_append, List.isSuffixOf_iff_suffix]
  exact List.suffix_append _ _

theorem withSign_natAbs (i : Int) : withSign (decide (i < 0)) i.natAbs = i := by
  unfold withSign
  by_cases hNegative : i < 0
  · rw [decide_eq_true hNegative, if_pos rfl]
    omega
  · rw [decide_eq_false hNegative, if_neg Bool.false_ne_true]
    omega

theorem read?_text (s : String) : read? text? (DataExpr.text s).trees = some s := by
  rw [read?, DataExpr.ofTrees?_text]
  rfl

theorem read?_flag (b : Bool) : read? flag? (DataExpr.flag b).trees = some b := by
  rw [read?, DataExpr.ofTrees?_flag]
  rfl

theorem read?_size (n : UInt64) : read? size? (DataExpr.size n).trees = some n := by
  have hForm := DataExpr.ofTrees?_int n.toNat "usize"
  have hSign : decide ((n.toNat : Int) < 0) = false := by simp
  have hHolds : (IntKind.unsigned 64).holds n.toNat = true := by
    have hLt := n.toNat_lt
    have hGreatest : (IntKind.unsigned 64).greatest = 2 ^ 64 - 1 := rfl
    rw [IntKind.holds_iff, hGreatest]
    exact ⟨Int.natCast_nonneg _, by omega⟩
  rw [hSign, Int.natAbs_natCast] at hForm
  rw [read?, DataExpr.trees, hForm]
  simp [size?, hasType_append, hHolds]

/-- The type behind a number counts. -/
example : read? size? (intLiteral 3 "i64") = none :=
  rfl

theorem read?_int (i : Int64) : read? int? (DataExpr.int i).trees = some i := by
  have hForm := DataExpr.ofTrees?_int i.toInt "i64"
  have hHolds : (IntKind.signed 64).holds i.toInt = true := by
    have hLt := i.toInt_lt
    have hGreatest : (IntKind.signed 64).greatest = 2 ^ 63 - 1 := rfl
    rw [IntKind.holds_iff, hGreatest]
    exact ⟨i.le_toInt, by omega⟩
  rw [read?, DataExpr.trees, hForm]
  simp [int?, hasType_append, withSign_natAbs, hHolds]

theorem magnitude_withSign (x : Double) :
    (if x.isNegative then (magnitude x).neg else magnitude x) = x := by
  cases x with
  | nan => rfl
  | infinite negative => cases negative <;> rfl
  | finite x =>
    obtain ⟨negative, mantissa, exponent⟩ := x
    cases negative <;> rfl

theorem read?_float (x : Double) : read? float? (DataExpr.float x).trees = some x := by
  cases x with
  | nan => rfl
  | infinite negative => cases negative <;> rfl
  | finite x =>
    have hForm := DataExpr.ofTrees?_floatLiteral (.finite x) "f64"
    rw [read?, DataExpr.trees, DataExpr.floatTrees, hForm]
    simp [float?, hasType_append, magnitude_withSign]

end Atoms

theorem read?_owned (s : String) : read? owned? (DataExpr.owned s).trees = some s := by
  have hForm := DataExpr.ofTrees?_apply "std" ["string", "String", "from"] (e := .text s) (by nofun)
  rw [read?, DataExpr.owned, hForm, Option.bind_some, owned?, read?_text]

section Parts

variable {α : Type} {read : Form → Option α} {code : α → DataExpr} (hNe : ∀ a, code a ≠ .constant [])

include hNe

theorem read?_option {o : Option α} (h : ∀ a ∈ o, read? read (code a).trees = some a) :
    read? (option? read) (DataExpr.option code o).trees = some o := by
  cases o with
  | none => rfl
  | some a =>
    have hForm := DataExpr.ofTrees?_apply "core" ["option", "Option", "Some"] (hNe a)
    rw [read?, DataExpr.option, DataExpr.some, hForm, Option.bind_some, option?, h a rfl]
    rfl

theorem read?_items {items : List α} (h : ∀ a ∈ items, read? read (code a).trees = some a) :
    read? (items? read) (DataExpr.vector (items.map code)).trees = some items := by
  have hItems : ∀ e ∈ items.map code, e ≠ .constant [] := by
    intro e he
    obtain ⟨a, -, rfl⟩ := List.mem_map.mp he
    exact hNe a
  have hRead : (items.map (DataExpr.trees ∘ code)).mapM (read? read) = some (items.map id) := mapM_map h
  rw [read?, DataExpr.ofTrees?_vector hItems, Option.bind_some, items?, List.map_map, hRead, List.map_id]

end Parts

theorem read?_owneds (texts : List String) :
    read? (items? owned?) (DataExpr.owneds texts).trees = some texts :=
  read?_items (fun _ => by nofun) fun s _ => read?_owned s

theorem read?_ownedOption (text : Option String) :
    read? (option? owned?) (DataExpr.option DataExpr.owned text).trees = some text :=
  read?_option (fun _ => by nofun) fun s _ => read?_owned s

theorem read?_sizeOption (bound : Option UInt64) :
    read? (option? size?) (DataExpr.option DataExpr.size bound).trees = some bound :=
  read?_option (fun _ => by nofun) fun n _ => read?_size n

theorem read?_floatOption (bound : Option Double) :
    read? (option? float?) (DataExpr.option DataExpr.float bound).trees = some bound :=
  read?_option (fun _ => by nofun) fun x _ => read?_float x

section Members

variable {members : List (String × DataExpr)} {name : String}

theorem struct?_bind {α : Type} {names path : List String} (h : members.map Prod.fst = names)
    {build : List (String × List Tree) → Option α} {a : α}
    (hBuild : build (members.map fun m => (m.1, m.2.trees)) = some a) :
    ((Form.struct path (members.map fun m => (m.1, m.2.trees))).struct? names path >>= build) = some a := by
  -- code gives the members in the order in which they are asked for; a reader would take any order
  have hPerm : ((members.map fun m => (m.1, m.2.trees)).map Prod.fst).isPerm names = true := by
    rw [List.map_map, List.isPerm_iff, ← h]
    exact .refl _
  exact (read_bind (if_pos ⟨rfl, hPerm⟩) build).trans hBuild

theorem read?_struct {α : Type} {names path : List String} {closed : Bool} (h : members.map Prod.fst = names)
    {build : List (String × List Tree) → Option α} {a : α}
    (hBuild : build (members.map fun m => (m.1, m.2.trees)) = some a) :
    read? (fun f => f.struct? names (library path) >>= build)
      (DataExpr.struct (library path) members closed).trees = some a :=
  (read?_eq (DataExpr.ofTrees?_struct "precheck" path members closed) _).trans (struct?_bind h hBuild)

theorem get?_map {α : Type} {read : Form → Option α} {e : DataExpr} {a : α}
    (hLookup : members.lookup name = some e) (hRead : read? read e.trees = some a) :
    get? name read (members.map fun m => (m.1, m.2.trees)) = some a := by
  have hTrees : (members.map fun m => (m.1, m.2.trees)).lookup name = some e.trees := by
    induction members with
    | nil => cases hLookup
    | cons m rest ih =>
      rw [List.map_cons, List.lookup_cons]
      rw [List.lookup_cons] at hLookup
      cases hName : name == m.1 with
      | true =>
        rw [hName] at hLookup
        cases hLookup
        rfl
      | false =>
        rw [hName] at hLookup
        exact ih hLookup
  rw [get?, hTrees, Option.bind_some, hRead]

theorem get?_bind {α β : Type} {read : Form → Option α} {e : DataExpr} {a : α}
    (hLookup : members.lookup name = some e) (hRead : read? read e.trees = some a)
    (rest : α → Option β) :
    (get? name read (members.map fun m => (m.1, m.2.trees)) >>= rest) = rest a :=
  read_bind (get?_map hLookup hRead) rest

end Members
end Source.Form

/-- A date is read back from the text that it is written with. -/
def Value.ReadsBack (v : Value) : Prop :=
  ∀ t, v = date t → Instant.readExact? t.display.toList = some t

/-- The code of a date builds the date anew from its text. -/
theorem Value.read?_code_date (t : Instant) : read? ofForm? (date t).code.trees = some (ofDateText t.display) := by
  have hDate := DataExpr.ofTrees?_apply "precheck" ["__private", "datetime_value"] (e := .text t.display) (by nofun)
  refine (read?_eq hDate ofForm?).trans ?_
  rw [ofForm?, read?_text, Option.map_some]

theorem Value.read?_code {v : Value} (h : v.ReadsBack) : read? ofForm? v.code.trees = some v := by
  have hForm (variant : String) {e : DataExpr} (he : e ≠ .constant []) :=
    read?_eq (DataExpr.ofTrees?_apply "precheck" ["Value", variant] he) ofForm?
  cases v with
  | null => rfl
  | bool b =>
    refine (hForm "Bool" (by nofun)).trans ?_
    rw [ofForm?, read?_flag]
    rfl
  | int i =>
    refine (hForm "Int" (by nofun)).trans ?_
    rw [ofForm?, read?_int]
    rfl
  | float x =>
    refine (hForm "Float" (by nofun)).trans ?_
    rw [ofForm?, read?_float]
    rfl
  | text s =>
    refine (hForm "String" (by nofun)).trans ?_
    rw [ofForm?, read?_owned]
    rfl
  | date t => rw [read?_code_date, ofDateText, h t rfl]

theorem Severity.read?_code (s : Severity) : Form.read? Severity.ofForm? s.code.trees = some s := by
  cases s <;> rfl

theorem FieldType.read?_code (t : FieldType) : read? FieldType.ofForm? t.code.trees = some t := by
  cases t <;> rfl

theorem Format.read?_code (f : Format) : read? Format.ofForm? f.code.trees = some f := by
  cases f <;> rfl

theorem Directive.read?_code (d : Directive) : read? ofForm? d.code.trees = some d := by
  refine read?_struct rfl ?_
  rw [get?_bind rfl (read?_flag d.trim), get?_bind rfl (read?_flag d.upper),
    get?_bind rfl (read?_flag d.lower)]

namespace Rule

def ReadsBack (r : Rule) : Prop :=
  ∀ v ∈ r.target?, v.ReadsBack

theorem read?_ofStruct {variant : String} {members : List (String × DataExpr)} {closed : Bool} {r : Rule}
    (h : ofStruct? variant (.struct (codePath variant) (members.map fun m => (m.1, m.2.trees))) = some r) :
    read? ofForm? (DataExpr.struct (codePath variant) members closed).trees = some r :=
  (read?_eq (DataExpr.ofTrees?_struct "precheck" ["ConstraintKind", variant] members closed) ofForm?).trans h

theorem read?_code {r : Rule} (h : r.ReadsBack) : read? ofForm? r.code.trees = some r := by
  cases r with
  | required | email | url | creditCard | phone | futureDate => rfl
  | length min max =>
    refine read?_ofStruct (struct?_bind rfl ?_)
    rw [get?_bind rfl (read?_size min), get?_bind rfl (read?_size max)]
  | range min max =>
    refine read?_ofStruct (struct?_bind rfl ?_)
    rw [get?_bind rfl (read?_float min), get?_bind rfl (read?_float max)]
  | fileExtension extensions =>
    refine read?_ofStruct (struct?_bind rfl ?_)
    rw [get?_bind rfl (read?_owneds extensions)]
  | allowedValues values =>
    refine read?_ofStruct (struct?_bind rfl ?_)
    rw [get?_bind rfl (read?_owneds values)]
  | requiredIf other target =>
    refine read?_ofStruct (struct?_bind rfl ?_)
    rw [get?_bind rfl (read?_owned other), get?_bind rfl (Value.read?_code (h target rfl))]
  | conditionalRange other target min max =>
    refine read?_ofStruct (struct?_bind rfl ?_)
    rw [get?_bind rfl (read?_owned other), get?_bind rfl (Value.read?_code (h target rfl)),
      get?_bind rfl (read?_float min), get?_bind rfl (read?_float max)]

end Rule

theorem MessageSource.read?_code (m : MessageSource) : read? ofForm? m.code.trees = some m := by
  have hForm (variant s : String) :=
    read?_eq (DataExpr.ofTrees?_apply "precheck" ["MessageSource", variant] (e := .owned s) (by nofun)) ofForm?
  cases m with
  | literal template =>
    refine (hForm "Literal" template).trans ?_
    rw [ofForm?, read?_owned]
    rfl
  | resource key =>
    refine (hForm "Resource" key).trans ?_
    rw [ofForm?, read?_owned]
    rfl

theorem Constraint.read?_code {c : Constraint} (h : c.rule.ReadsBack) :
    read? ofForm? c.code.trees = some c := by
  have hMessage : read? (option? MessageSource.ofForm?)
      (DataExpr.option MessageSource.code c.message).trees = some c.message :=
    read?_option (by rintro (_ | _) <;> nofun) fun m _ => m.read?_code
  refine read?_struct rfl ?_
  rw [get?_bind rfl (Rule.read?_code h), get?_bind rfl hMessage,
    get?_bind rfl c.severity.read?_code, get?_bind rfl (read?_ownedOption c.group)]

theorem ValidatorRef.read?_code (w : ValidatorRef) : read? ofForm? w.code.trees = some w := by
  refine read?_struct rfl ?_
  rw [get?_bind rfl (read?_owned w.name), get?_bind rfl (read?_flag w.isAsync)]

def FieldDeclaration.ReadsBack (f : FieldDeclaration) : Prop :=
  ∀ c ∈ f.constraints, c.rule.ReadsBack

theorem FieldDeclaration.read?_code {f : FieldDeclaration} (h : f.ReadsBack) :
    read? ofForm? f.code.trees = some f := by
  have hConstraints : read? (items? Constraint.ofForm?)
      (DataExpr.vector (f.constraints.map Constraint.code)).trees = some f.constraints :=
    read?_items (fun _ => by nofun) fun c hc => Constraint.read?_code (h c hc)
  have hSanitize : read? (option? Directive.ofForm?)
      (DataExpr.option Directive.code f.sanitize).trees = some f.sanitize :=
    read?_option (fun _ => by nofun) fun d _ => d.read?_code
  have hValidators : read? (items? ValidatorRef.ofForm?)
      (DataExpr.vector (f.validators.map ValidatorRef.code)).trees = some f.validators :=
    read?_items (fun _ => by nofun) fun w _ => w.read?_code
  refine read?_struct rfl ?_
  rw [get?_bind rfl (read?_owned f.name), get?_bind rfl f.fieldType.read?_code,
    get?_bind rfl (read?_flag f.nullable), get?_bind rfl (read?_ownedOption f.displayName),
    get?_bind rfl hConstraints, get?_bind rfl hSanitize, get?_bind rfl hValidators]

theorem ModelDeclaration.read?_code {d : ModelDeclaration} (h : ∀ v ∈ d.targets, v.ReadsBack) :
    read? ofForm? d.code.trees = some d := by
  have hFields : read? (items? FieldDeclaration.ofForm?)
      (DataExpr.vector (d.fields.map FieldDeclaration.code)).trees = some d.fields :=
    read?_items (fun _ => by nofun) fun f hf => FieldDeclaration.read?_code fun c hc v hv =>
      h v ((d.mem_targets_iff v).mpr ⟨f, hf, c, hc, hv⟩)
  refine read?_struct rfl ?_
  rw [get?_bind rfl (read?_owned d.name), get?_bind rfl hFields, get?_bind rfl (read?_ownedOption d.hook)]

theorem Condition.read?_code {c : Condition} (h : c.target.ReadsBack) :
    read? ofForm? c.code.trees = some c := by
  refine read?_struct rfl ?_
  rw [get?_bind rfl (read?_owned c.other), get?_bind rfl (Value.read?_code h),
    get?_bind rfl (read?_flag c.required), get?_bind rfl (read?_floatOption c.numericMin),
    get?_bind rfl (read?_floatOption c.numericMax)]

theorem FieldSummary.read?_code {s : FieldSummary} (h : ∀ c ∈ s.conditions, c.target.ReadsBack) :
    read? ofForm? s.code.trees = some s := by
  have hFormats : read? (items? Format.ofForm?)
      (DataExpr.vector (s.formats.map Format.code)).trees = some s.formats :=
    read?_items (by rintro (_ | _) <;> nofun) fun f _ => f.read?_code
  have hConditions : read? (items? Condition.ofForm?)
      (DataExpr.vector (s.conditions.map Condition.code)).trees = some s.conditions :=
    read?_items (fun _ => by nofun) fun c hc => Condition.read?_code (h c hc)
  refine read?_struct rfl ?_
  rw [get?_bind rfl (read?_owned s.name), get?_bind rfl (read?_owned s.displayName),
    get?_bind rfl s.fieldType.read?_code, get?_bind rfl (read?_flag s.nullable),
    get?_bind rfl (read?_flag s.hasRequired), get?_bind rfl (read?_sizeOption s.stringMin),
    get?_bind rfl (read?_sizeOption s.stringMax), get?_bind rfl (read?_floatOption s.numericMin),
    get?_bind rfl (read?_floatOption s.numericMax), get?_bind rfl hFormats,
    get?_bind rfl (read?_owneds s.allowedValues), get?_bind rfl (read?_owneds s.fileExtensions),
    get?_bind rfl hConditions, get?_bind rfl (read?_owneds s.groups)]

theorem Summary.read?_code {s : Summary} (h : ∀ f ∈ s.fields, ∀ c ∈ f.conditions, c.target.ReadsBack) :
    read? ofForm? s.code.trees = some s := by
  have hFields : read? (items? FieldSummary.ofForm?)
      (DataExpr.vector (s.fields.map FieldSummary.code)).trees = some s.fields :=
    read?_items (fun _ => by nofun) fun f hf => FieldSummary.read?_code (h f hf)
  refine read?_struct rfl ?_
  rw [get?_bind rfl (read?_owned s.model), get?_bind rfl hFields]

end FieldRules
