import FieldRules.Proofs.Derive.Commands
import FieldRules.Proofs.Derive.Construction
import FieldRules.Proofs.Derive.Refinement

/-!
# Running generated code

What generated code does to an instance. Each command calls a function of the library, which is known by its path,
and the arguments of the call are read from their trees. Functions of the user are told by the trees of their paths.
-/
set_option autoImplicit false

namespace FieldRules

open Source

def Site.ofForm? (f : Form) : Option Site := do
  let m ← f.struct? ["model", "field", "label", "validator"] (Derive.privateLibrary ["CustomSite"])
  let model ← Form.get? "model" Form.text? m
  let field ← Form.get? "field" Form.text? m
  let label ← Form.get? "label" Form.text? m
  let validator ← Form.get? "validator" Form.text? m
  some { model, field, label, validator }

namespace Derive

/-- What the functions of the user do, by the trees of their paths. -/
structure Callees where
  validator : List Tree → Typed → Services → CustomResult
  hook : List Tree → Instance → Context → List Entry

def Callees.byPath (c : Callees) : Functions :=
  ⟨fun p => c.validator p.trees, fun p => c.hook p.trees⟩

/-! The arguments of calls. -/

namespace Argument

def built? : List Tree → Option Value
  | .mark _ '&' _ :: trees => Form.read? Value.ofForm? trees
  | _ => none

/-- What a reference is to: a place of the instance, or a value. -/
def value? (i : Instance) (trees : List Tree) : Option Typed :=
  match placeRef? trees with
  | some place => some (i.field place)
  | none => (built? trees).map fun v => ⟨.value, v⟩

def slice? : List Tree → Option (List (List Tree))
  | [.mark _ '&' _, .group _ _ .bracket content, .group _ _ .bracket [.mark _ '.' _, .mark _ '.' _]] =>
    some (parts content)
  | _ => none

def texts? (trees : List Tree) : Option (List String) :=
  (slice? trees).bind fun items => items.mapM (Form.read? Form.text?)

def pair? : List Tree → Option (String × String)
  | [.group _ _ .paren content] =>
    match parts content with
    | [key, value] => do
      let key ← Form.read? Form.text? key
      let value ← Form.read? Form.text? value
      some (key, value)
    | _ => none
  | _ => none

def pairs? (trees : List Tree) : Option (List (String × String)) :=
  (slice? trees).bind fun items => items.mapM pair?

/-- The method that the context is asked for. -/
def method? : List Tree → Option String
  | [.name _ false "__ctx", .mark _ '.' _, .name _ false method, .group _ _ .paren []] => some method
  | _ => none

end Argument

open Argument

namespace Test

/-- What a function of the rules says about its arguments. -/
def verdict? (i : Instance) (ctx : Context) (t : Test) : Option Bool :=
  match t.function, t.arguments with
  | "group_matches", [declared, active] =>
    if method? active = some "active_group" then
      (Form.read? (Form.option? Form.text?) declared).map fun group => group.all fun g => ctx.group == some g
    else none
  | "required", [a] => do
    let a ← value? i a
    some (Verdict.required a)
  | "string_length", [a, min, max] => do
    let a ← value? i a
    let min ← Form.read? Form.size? min
    let max ← Form.read? Form.size? max
    some (Verdict.length min max a)
  | "range", [a, min, max] => do
    let a ← value? i a
    let min ← Form.read? Form.float? min
    let max ← Form.read? Form.float? max
    some (Verdict.range min max a)
  | "email", [a] => do
    let a ← value? i a
    some (Verdict.format Verdict.isEmail a)
  | "url", [a] => do
    let a ← value? i a
    some (Verdict.format Verdict.isUrl a)
  | "credit_card", [a] => do
    let a ← value? i a
    some (Verdict.format Verdict.isCreditCard a)
  | "phone", [a] => do
    let a ← value? i a
    some (Verdict.format Verdict.isPhone a)
  | "file_extension", [a, extensions] => do
    let a ← value? i a
    let extensions ← texts? extensions
    some (Verdict.format (Verdict.hasExtension extensions) a)
  | "future_date", [a, now] => do
    let a ← value? i a
    if method? now = some "now" then some (Verdict.futureDate ctx.now a) else none
  | "allowed_values", [a, values] => do
    let a ← value? i a
    let values ← texts? values
    some (Verdict.allowedValues values a)
  | "required_if", [a, sibling, target] => do
    let a ← value? i a
    let sibling ← value? i sibling
    let target ← built? target
    some (!Verdict.conditionMet target sibling || Verdict.required a)
  | "conditional_range", [a, sibling, target, min, max] => do
    let a ← value? i a
    let sibling ← value? i sibling
    let target ← built? target
    let min ← Form.read? Form.float? min
    let max ← Form.read? Form.float? max
    some (!Verdict.conditionMet target sibling || Verdict.range min max a)
  | _, _ => none

def value? (i : Instance) (ctx : Context) (t : Test) : Option Bool :=
  (t.verdict? i ctx).map fun verdict => t.negated != verdict

end Test

def message? (ctx : Context) (trees : List Tree) : Option String :=
  match Form.ofTrees? trees with
  | some (.call ["precheck", "messages", "resolve_resource"] [catalog, key, arguments, fallback]) => do
    let key ← Form.read? Form.text? key
    let arguments ← pairs? arguments
    let fallback ← Form.read? Form.text? fallback
    if method? catalog = some "catalog" then some (Message.resolve ctx.catalog key arguments fallback) else none
  | some f => Form.owned? f
  | none => none

def added? (ctx : Context) : List (List Tree) → Option Entry
  | [field, message, severity] => do
    let field ← Form.read? Form.text? field
    let message ← message? ctx message
    let severity ← Form.read? Severity.ofForm? severity
    some ⟨field, message, severity⟩
  | _ => none

/-- Runs a command behind what came before it, if all of it can be read. -/
def Command.run (callees : Callees) (ctx : Context) (v : Validated Instance) : Command → Option (Validated Instance)
  | sanitize place directive =>
    (Form.read? Directive.ofForm? directive).map fun d => { v with record := v.record.sanitizeAt place d }
  | check tests arguments => do
    let held ← tests.mapM (Test.value? v.record ctx)
    let entry ← added? ctx arguments
    some (if held.all id then { v with outcome := v.outcome.push entry } else v)
  | custom _ function place site => do
    let site ← Form.read? Site.ofForm? site
    let result := callees.validator function (v.record.field place) ctx.services
    some { v with
      outcome := v.outcome.extend (result.entries site ctx.policy)
      warnings := v.warnings ++ result.warnings site ctx.policy }
  | hook function => some { v with outcome := v.outcome.extend (callees.hook function v.record ctx) }

def execute (callees : Callees) (i : Instance) (ctx : Context) (body : List Tree) : Option (Validated Instance) :=
  (commands? body).bind fun commands => commands.foldlM (Command.run callees ctx) ⟨i, .empty, []⟩

/-- A part of the arguments of a call. -/
def IsArgument (trees : List Tree) : Prop :=
  IsPart trees ∧ trees ≠ []

namespace Argument

theorem isArgument_data {e : DataExpr} (h : e ≠ .constant []) : IsArgument e.trees :=
  ⟨e.isPart_trees, DataExpr.trees_ne_nil h⟩

theorem isArgument_reference {trees : List Tree} (h : IsPart trees) : IsArgument (punct "&" ++ trees) :=
  ⟨IsPart.append (.single rfl) h, List.cons_ne_nil _ _⟩

theorem value?_placeRef (i : Instance) (place : String) : value? i (Code.placeRef place) = some (i.field place) :=
  rfl

theorem built?_code {v : Value} (h : v.ReadsBack) : built? (punct "&" ++ v.code.trees) = some v :=
  Value.read?_code h

theorem isArgument_slice (items : List (List Tree)) : IsArgument (Code.slice items) := by
  have hItems : IsPart (brackets (separate items)) := .single rfl
  exact ⟨((isArgument_reference hItems).1).append (.single rfl), List.cons_ne_nil _ _⟩

theorem isArgument_method (name : String) : IsArgument (Code.method Code.context name) := by
  have hContext : IsPart Code.context := .single rfl
  have hDot : IsPart (punct ".") := .single rfl
  have hName : IsPart (word name) := .single rfl
  exact ⟨((hContext.append hDot).append hName).append (.single rfl), List.cons_ne_nil _ _⟩

theorem method?_method (name : String) : method? (Code.method Code.context name) = some name :=
  rfl

theorem slice?_slice {items : List (List Tree)} (h : ∀ item ∈ items, IsArgument item) :
    slice? (Code.slice items) = some items := by
  have hParts : slice? (Code.slice items) = some (parts (separate items)) := rfl
  rw [hParts, IsPart.parts_separate h]

theorem texts?_slice (texts : List String) : texts? (Code.slice (texts.map textLiteral)) = some texts := by
  have hItems : ∀ item ∈ texts.map textLiteral, IsArgument item := by
    intro item hItem
    obtain ⟨s, -, rfl⟩ := List.mem_map.mp hItem
    exact isArgument_data (e := .text s) (by nofun)
  have hRead : (texts.map textLiteral).mapM (Form.read? Form.text?) = some (texts.map id) :=
    mapM_map fun s _ => Form.read?_text s
  rw [texts?, slice?_slice hItems, Option.bind_some, hRead, List.map_id]

theorem pairs?_slice (pairs : List (String × String)) : pairs? (Code.slice (pairs.map Code.pair)) = some pairs := by
  have hItems : ∀ item ∈ pairs.map Code.pair, IsArgument item := by
    intro item hItem
    obtain ⟨p, -, rfl⟩ := List.mem_map.mp hItem
    exact ⟨.single rfl, List.cons_ne_nil _ _⟩
  have hRead : (pairs.map Code.pair).mapM pair? = some (pairs.map id) := by
    refine mapM_map fun p _ => ?_
    rfl
  rw [pairs?, slice?_slice hItems, Option.bind_some, hRead, List.map_id]

end Argument

theorem Site.read?_site (s : Site) : Form.read? Site.ofForm? (Code.site s) = some s := by
  refine Form.read?_struct rfl ?_
  rw [Form.get?_bind rfl (Form.read?_text s.model), Form.get?_bind rfl (Form.read?_text s.field),
    Form.get?_bind rfl (Form.read?_text s.label), Form.get?_bind rfl (Form.read?_text s.validator)]

theorem ofTrees?_call (name : String) (names : List String) {arguments : List (List Tree)}
    (h : ∀ a ∈ arguments, IsArgument a) :
    Form.ofTrees? (Code.call (rooted (name :: names)) arguments) = some (.call (name :: names) arguments) := by
  have hForm := Form.ofTrees?_rooted name names (parens (separate arguments)) rfl
  rw [Code.call, hForm, parens, Form.rooted?, IsPart.parts_separate h]

/-- The trees of a call of a rule read as a test that says what the rule says. -/
theorem exists_test (r : Rule) (hTarget : r.ReadsBack) {value sibling : List Tree} (hValue : IsArgument value)
    (hSibling : IsArgument sibling) :
    ∃ function arguments, Code.verdict value sibling r = Code.call (Code.rulePath function) arguments ∧
      (∀ a ∈ arguments, IsArgument a) ∧ arguments.head? = some value ∧
      ∀ negated i ctx a b, value? i value = some a → value? i sibling = some b →
        Test.verdict? i ctx ⟨negated, function, arguments⟩ = some (r.holds ctx.now b a) := by
  have hSize (n : UInt64) : IsArgument (DataExpr.size n).trees := isArgument_data (by nofun)
  have hFloat (x : Double) : IsArgument (DataExpr.float x).trees := isArgument_data (by nofun)
  have hSlice (items : List (List Tree)) : IsArgument (Code.slice items) := isArgument_slice items
  have hBuilt (v : Value) : IsArgument (punct "&" ++ v.code.trees) := isArgument_reference v.code.isPart_trees
  cases r with
  | required | email | url | creditCard | phone =>
    refine ⟨_, _, rfl, by simpa using hValue, rfl, fun negated i ctx a b ha hb => ?_⟩
    simp only [Test.verdict?, ha]
    rfl
  | futureDate =>
    refine ⟨_, _, rfl, ?_, rfl, fun negated i ctx a b ha hb => ?_⟩
    · simpa using ⟨hValue, isArgument_method "now"⟩
    · simp only [Test.verdict?, ha, method?_method]
      rfl
  | length min max =>
    refine ⟨_, _, rfl, by simpa using ⟨hValue, hSize min, hSize max⟩, rfl, fun negated i ctx a b ha hb => ?_⟩
    simp only [Test.verdict?, ha, Form.read?_size]
    rfl
  | range min max =>
    refine ⟨_, _, rfl, by simpa using ⟨hValue, hFloat min, hFloat max⟩, rfl, fun negated i ctx a b ha hb => ?_⟩
    simp only [Test.verdict?, ha, Form.read?_float]
    rfl
  | fileExtension extensions =>
    refine ⟨_, _, rfl, by simpa using ⟨hValue, hSlice _⟩, rfl, fun negated i ctx a b ha hb => ?_⟩
    simp only [Test.verdict?, ha, texts?_slice]
    rfl
  | allowedValues values =>
    refine ⟨_, _, rfl, by simpa using ⟨hValue, hSlice _⟩, rfl, fun negated i ctx a b ha hb => ?_⟩
    simp only [Test.verdict?, ha, texts?_slice]
    rfl
  | requiredIf other target =>
    refine ⟨_, _, rfl, by simpa using ⟨hValue, hSibling, hBuilt target⟩, rfl, fun negated i ctx a b ha hb => ?_⟩
    simp only [Test.verdict?, ha, hb, built?_code (hTarget target rfl)]
    rfl
  | conditionalRange other target min max =>
    refine ⟨_, _, rfl, ?_, rfl, fun negated i ctx a b ha hb => ?_⟩
    · simpa using ⟨hValue, hSibling, hBuilt target, hFloat min, hFloat max⟩
    · simp only [Test.verdict?, ha, hb, built?_code (hTarget target rfl), Form.read?_float]
      rfl

theorem Test.ofCall?_call (negated : Bool) (function : String) {arguments : List (List Tree)}
    (h : ∀ a ∈ arguments, IsArgument a) :
    ofCall? negated (Code.call (Code.rulePath function) arguments) = some ⟨negated, function, arguments⟩ := by
  have hForm := ofTrees?_call "precheck" ["rules", function] h
  rw [ofCall?]
  exact hForm ▸ rfl

theorem isArgument_placeRef (place : String) : IsArgument (Code.placeRef place) := by
  have hSelf : IsPart (word "self") := .single rfl
  have hDot : IsPart (punct ".") := .single rfl
  exact isArgument_reference ((hSelf.append hDot).append (.single rfl))

theorem isArgument_sibling (place : Option String) : IsArgument (Code.sibling place) := by
  cases place with
  | none => exact isArgument_reference Value.null.code.isPart_trees
  | some place => exact isArgument_placeRef place

/-- What a check reads as the sibling, null if there is none. -/
def Check.siblingIn (c : Check) (i : Instance) : Typed :=
  (c.sibling.map i.field).getD ⟨.value, Value.null⟩

theorem value?_sibling (c : Check) (i : Instance) : value? i (Code.sibling c.sibling) = some (c.siblingIn i) := by
  rw [Check.siblingIn]
  cases c.sibling <;> rfl

theorem Check.holds_eq (c : Check) (i : Instance) (now : Instant) :
    c.holds i now = c.rule.holds now (c.siblingIn i) (i.field c.place) := by
  rw [holds, siblingIn]
  cases c.sibling with
  | some sibling => rfl
  | none => cases c.rule <;> rfl

theorem exists_ruleTest {c : Check} (hTarget : c.rule.ReadsBack) :
    ∃ t : Test, Test.ofTrees? (Code.negated (Code.verdict (Code.placeRef c.place) (Code.sibling c.sibling) c.rule)) =
        some t ∧ t.arguments.head?.bind placeRef? = some c.place ∧
      ∀ i ctx, t.value? i ctx = some (!c.holds i ctx.now) := by
  obtain ⟨function, arguments, hCall, hArguments, hHead, hVerdict⟩ :=
    exists_test c.rule hTarget (isArgument_placeRef c.place) (isArgument_sibling c.sibling)
  refine ⟨⟨true, function, arguments⟩, ?_, ?_, fun i ctx => ?_⟩
  · rw [hCall]
    exact Test.ofCall?_call true function hArguments
  · rw [hHead]
    rfl
  · rw [Test.value?, hVerdict true i ctx _ _ (value?_placeRef i c.place) (value?_sibling c i), Option.map_some,
      c.holds_eq]
    simp

theorem exists_groupTest (group : String) :
    ∃ t : Test, Test.ofTrees? (Code.call (Code.rulePath "group_matches")
        [Code.someOf (textLiteral group), Code.method Code.context "active_group"]) = some t ∧
      ∀ i ctx, t.value? i ctx = some (ctx.group == some group) := by
  have hDeclared : IsArgument (Code.someOf (textLiteral group)) :=
    isArgument_data (e := .some (.text group)) (by nofun)
  refine ⟨_, Test.ofCall?_call false "group_matches" (by simpa using ⟨hDeclared, isArgument_method _⟩),
    fun i ctx => ?_⟩
  have hVerdict : Test.verdict? i ctx ⟨false, "group_matches",
      [Code.someOf (textLiteral group), Code.method Code.context "active_group"]⟩ =
    some ((some group).all fun g => ctx.group == some g) := rfl
  rw [Test.value?, hVerdict, Option.map_some]
  simp

/-- The tests of a condition hold together exactly if the check is active and fails. -/
theorem exists_tests {c : Check} (hTarget : c.rule.ReadsBack) :
    ∃ tests, (conjuncts (Code.condition c)).mapM Test.ofTrees? = some tests ∧
      ((tests.getLast?.bind fun t => t.arguments.head?).bind placeRef?) = some c.place ∧
      ∀ i ctx, ∃ held, tests.mapM (Test.value? i ctx) = some held ∧
        held.all id = (c.isActive ctx.group && !c.holds i ctx.now) := by
  obtain ⟨failed, hFailed, hSubject, hFails⟩ := exists_ruleTest hTarget
  have hSeamless := Code.isSeamless_negated_verdict (Code.placeRef c.place) (Code.sibling c.sibling) c.rule
  have hOne := hSeamless.conjuncts_eq (List.cons_ne_nil _ _)
  rw [Code.condition]
  cases hGroup : c.group with
  | none =>
    refine ⟨[failed], ?_, hSubject, fun i ctx => ⟨[!c.holds i ctx.now], ?_, ?_⟩⟩
    · simp [hOne, hFailed]
    · simp [hFails]
    · simp [Check.isActive, hGroup]
  | some group =>
    obtain ⟨matching, hMatching, hMatches⟩ := exists_groupTest group
    have hBoth := (Code.isSeamless_call (library ["rules", "group_matches"])
      [Code.someOf (textLiteral group), Code.method Code.context "active_group"]).conjuncts_and
      (List.cons_ne_nil _ _) (Code.negated (Code.verdict (Code.placeRef c.place) (Code.sibling c.sibling) c.rule))
    refine ⟨[matching, failed], ?_, hSubject,
      fun i ctx => ⟨[ctx.group == some group, !c.holds i ctx.now], ?_, ?_⟩⟩
    · rw [hOne] at hBoth
      rw [Code.rulePath, Code.libraryPath] at hMatching
      exact (congrArg (List.mapM Test.ofTrees?) hBoth).trans (by simp [hMatching, hFailed])
    · simp [hMatches, hFails]
    · simp [Check.isActive, hGroup]

theorem message?_message (ctx : Context) (m : MessageExpr) :
    message? ctx (Code.message m) = some (m.text ctx.catalog) := by
  cases m with
  | fixed text =>
    have hForm := DataExpr.ofTrees?_apply "std" ["string", "String", "from"] (e := .text text) (by nofun)
    simp only [message?, Code.message, DataExpr.owned, hForm]
    exact Form.read?_text text
  | resource key arguments fallback =>
    let given := [Code.method Code.context "catalog", textLiteral key, Code.slice (arguments.map Code.pair),
      textLiteral fallback]
    have hGiven : ∀ part ∈ given, IsPart part := by
      have hText (s : String) : IsPart (textLiteral s) := .single rfl
      simpa [given] using ⟨(isArgument_method _).1, hText key, (isArgument_slice _).1, hText fallback⟩
    have hForm : Form.ofTrees? (Code.message (.resource key arguments fallback)) =
        some (.call ["precheck", "messages", "resolve_resource"] given) := by
      have hRooted := Form.ofTrees?_rooted "precheck" ["messages", "resolve_resource"] (parens (terminate given)) rfl
      rw [parens, Form.rooted?, IsPart.parts_terminate hGiven] at hRooted
      exact hRooted
    have hText (s : String) : Form.read? Form.text? (textLiteral s) = some s := Form.read?_text s
    simp only [message?, hForm, given, hText, pairs?_slice, method?_method]
    rfl

theorem isArgument_message (m : MessageExpr) : IsArgument (Code.message m) := by
  cases m with
  | fixed text => exact isArgument_data (e := .owned text) (by nofun)
  | resource key arguments fallback => exact ⟨(IsPart.rooted _).append (.single rfl), List.cons_ne_nil _ _⟩

theorem added?_check (ctx : Context) (c : Check) :
    added? ctx [textLiteral c.field, Code.message c.message, c.severity.code.trees] =
      some ⟨c.field, c.message.text ctx.catalog, c.severity⟩ := by
  have hField : Form.read? Form.text? (textLiteral c.field) = some c.field := Form.read?_text c.field
  simp only [added?, hField, message?_message, Severity.read?_code]
  rfl

/-- A command does what the statement does that it was written for. -/
inductive Command.Follows : Command → Statement → Prop where
  | sanitize (place : String) (d : Directive) : Follows (.sanitize place d.code.trees) (.sanitize place d)
  | check {tests : List Test} {entry : List (List Tree)} {c : Check}
    (hSubject : (Command.check tests entry).subject? = some c.place)
    (hRun : ∀ callees ctx v, (Command.check tests entry).run callees ctx v =
      some { v with outcome := v.outcome.extend (c.entries v.record ctx) }) :
    Follows (.check tests entry) (.check c)
  | custom (place : String) (function : Path) (site : Site) (isAsync : Bool) :
    Follows (.custom isAsync function.trees place (Code.site site)) (.call place function site isAsync)
  | hook (function : Path) : Follows (.hook function.trees) (.hook function)

theorem Command.Follows.run {command : Command} {s : Statement} (h : command.Follows s) (callees : Callees)
    (ctx : Context) (v : Validated Instance) :
    command.run callees ctx v = some (s.run callees.byPath ctx v) := by
  cases h with
  | sanitize place d =>
    rw [Command.run, Directive.read?_code]
    rfl
  | check hSubject hRun => exact hRun callees ctx v
  | custom place function site isAsync =>
    simp only [Command.run, Site.read?_site]
    rfl
  | hook function => rfl

/-- The targets of the rule of a statement are read back. -/
def Statement.ReadsBack : Statement → Prop
  | .check c => c.rule.ReadsBack
  | .missing _ => False
  | _ => True

theorem exists_check {c : Check} (hTarget : c.rule.ReadsBack) :
    ∃ command, Command.ofTrees? (Code.check c) = some command ∧ command.Follows (.check c) := by
  obtain ⟨tests, hTests, hSubject, hHold⟩ := exists_tests hTarget
  let entry := [textLiteral c.field, Code.message c.message, c.severity.code.trees]
  let block := Code.result ++ punct "." ++
    Code.call (word "push") [Code.call (Code.libraryPath ["ValidationError", "new"]) entry] ++ punct ";"
  have hPushed : Command.pushedOf? block = some entry := by
    have hText (s : String) : IsArgument (textLiteral s) := isArgument_data (e := .text s) (by nofun)
    have hSeverity : IsArgument c.severity.code.trees := isArgument_data (by cases c.severity <;> nofun)
    have hEntry : ∀ a ∈ entry, IsArgument a := by
      simpa [entry] using ⟨hText c.field, isArgument_message c.message, hSeverity⟩
    have hForm := ofTrees?_call "precheck" ["ValidationError", "new"] hEntry
    have hRead : Command.pushedOf? block =
      Command.entryOf? (Code.call (rooted ["precheck", "ValidationError", "new"]) entry) := rfl
    rw [hRead, Command.entryOf?, hForm]
    rfl
  refine ⟨.check tests entry, ?_, .check hSubject fun callees ctx v => ?_⟩
  · have hRead : Command.ofTrees? (Code.check c) = Command.checkOf? (Code.condition c ++ braces block) := rfl
    have hLast : (Code.condition c ++ braces block).getLast? = some (.group .start .start .brace block) :=
      List.getLast?_concat
    have hFront : (Code.condition c ++ braces block).dropLast = Code.condition c := List.dropLast_concat
    rw [hRead, Command.checkOf?, hLast, hFront]
    simp only [hTests, hPushed, Option.bind_eq_bind, Option.bind_some]
  · obtain ⟨held, hHeld, hAll⟩ := hHold v.record ctx
    simp only [Command.run, hHeld, entry, added?_check, Option.bind_eq_bind, Option.bind_some, hAll, Check.entries]
    split
    · rfl
    · simp [Outcome.extend]

theorem customOf?_customCall (place : String) (function : Path) (site : Site) (isAsync : Bool) :
    Command.ofTrees? (Code.customCall place function site isAsync) =
      some (.custom isAsync function.trees place (Code.site site)) := by
  let content := separate [function.trees, Code.placeRef place, Code.context, punct "&" ++ Code.site site,
    punct "&" ++ word "mut" ++ Code.result]
  have hRead : Command.ofTrees? (Code.customCall place function site isAsync) =
      Command.customOf? isAsync content := by
    cases isAsync <;> rfl
  have hContent : content = function.trees ++ punct "," ++ Code.placeRef place ++ punct "," ++ Code.context ++
      punct "," ++ (punct "&" ++ Code.site site) ++ punct "," ++ (punct "&" ++ word "mut" ++ Code.result) := by
    simp [content, separate]
  have hResult : IsPart (punct "&" ++ word "mut" ++ Code.result) := by
    have hMark : IsPart (punct "&") := .single rfl
    have hMut : IsPart (word "mut") := .single rfl
    exact (hMark.append hMut).append (.single rfl)
  have hSite : IsPart (punct "&" ++ Code.site site) := (isArgument_reference (DataExpr.isPart_trees _)).1
  have hContext : IsPart Code.context := .single rfl
  have hPlace : IsPart (Code.placeRef place) := (isArgument_placeRef place).1
  rw [hRead, hContent, Command.customOf?]
  simp only [hResult.cutLast?_append, hSite.cutLast?_append, hContext.cutLast?_append, hPlace.cutLast?_append,
    Option.bind_eq_bind, Option.bind_some]
  rfl

theorem hookOf?_hook (function : Path) :
    Command.ofTrees? (Code.statement (.hook function)) = some (.hook function.trees) := by
  let arguments := [function.trees, punct "&*" ++ word "self", Code.context]
  have hRead : Command.ofTrees? (Code.statement (.hook function)) =
      Command.hookOf? (Code.call (rooted (privateLibrary ["run_hook"])) arguments) := rfl
  have hPath : pathNames (Code.call (rooted (privateLibrary ["run_hook"])) arguments) =
      (["precheck", "__private", "run_hook"], parens (separate arguments)) := rfl
  have hContent : separate arguments =
      function.trees ++ punct "," ++ (punct "&*" ++ word "self") ++ punct "," ++ Code.context := by
    simp [arguments, separate]
  have hContext : IsPart Code.context := .single rfl
  have hSelf : IsPart (punct "&*" ++ word "self") := by
    have hMark : IsPart (punct "&*") := IsPart.append (.single rfl) (.single rfl)
    exact hMark.append (.single rfl)
  rw [hRead, Command.hookOf?, hPath, hContent]
  simp only [parens, hContext.cutLast?_append, hSelf.cutLast?_append, Option.bind_eq_bind, Option.bind_some]
  rfl

theorem exists_command {s : Statement} (h : s.ReadsBack) :
    ∃ command, Command.ofTrees? (Code.statement s) = some command ∧ command.Follows s := by
  cases s with
  | sanitize place d =>
    refine ⟨_, ?_, .sanitize place d⟩
    rfl
  | check c => exact exists_check h
  | call place function site isAsync => exact ⟨_, customOf?_customCall .., .custom place function site isAsync⟩
  | missing validator => exact h.elim
  | hook function => exact ⟨_, hookOf?_hook function, .hook function⟩

end Derive
end FieldRules
