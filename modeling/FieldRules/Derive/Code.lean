import FieldRules.Derive.Data
import FieldRules.Derive.Routine

/-!
# Code of annotated models

The two implementations that are written for an annotated model: its validation, with the statements of its
routine, its declaration and its summary, and its view as a record of fields.
-/
set_option autoImplicit false

namespace FieldRules.Derive

open Source

namespace Code

def libraryPath (names : List String) : List Tree :=
  rooted (library names)

def rulePath (function : String) : List Tree :=
  libraryPath ["rules", function]

def place (name : String) : List Tree :=
  word "self" ++ punct "." ++ word name

def placeRef (name : String) : List Tree :=
  punct "&" ++ place name

def placeMut (name : String) : List Tree :=
  punct "&" ++ word "mut" ++ place name

def context : List Tree :=
  word "__ctx"

def result : List Tree :=
  word "__result"

def method (subject : List Tree) (name : String) : List Tree :=
  subject ++ punct "." ++ word name ++ parens []

def call (function : List Tree) (arguments : List (List Tree)) : List Tree :=
  function ++ parens (separate arguments)

def slice (items : List (List Tree)) : List Tree :=
  punct "&" ++ brackets (separate items) ++ brackets (punct "..")

def someOf (content : List Tree) : List Tree :=
  call (rooted ["core", "option", "Option", "Some"]) [content]

def noneOf : List Tree :=
  DataExpr.none.trees

def verdict (value sibling : List Tree) : Rule → List Tree
  | .required => call (rulePath "required") [value]
  | .length min max =>
    call (rulePath "string_length") [value, (DataExpr.size min).trees, (DataExpr.size max).trees]
  | .range min max =>
    call (rulePath "range") [value, (DataExpr.float min).trees, (DataExpr.float max).trees]
  | .email => call (rulePath "email") [value]
  | .url => call (rulePath "url") [value]
  | .creditCard => call (rulePath "credit_card") [value]
  | .phone => call (rulePath "phone") [value]
  | .fileExtension extensions =>
    call (rulePath "file_extension") [value, slice (extensions.map textLiteral)]
  | .futureDate => call (rulePath "future_date") [value, method context "now"]
  | .allowedValues values => call (rulePath "allowed_values") [value, slice (values.map textLiteral)]
  | .requiredIf _ target =>
    call (rulePath "required_if") [value, sibling, punct "&" ++ target.code.trees]
  | .conditionalRange _ target min max =>
    call (rulePath "conditional_range")
      [value, sibling, punct "&" ++ target.code.trees, (DataExpr.float min).trees,
        (DataExpr.float max).trees]

/-- A missing sibling is written as null. -/
def sibling (place : Option String) : List Tree :=
  match place with
  | some place => placeRef place
  | none => punct "&" ++ Value.null.code.trees

def pair (p : String × String) : List Tree :=
  parens (separate [textLiteral p.1, textLiteral p.2])

def message : MessageExpr → List Tree
  | .fixed text => (DataExpr.owned text).trees
  | .resource key arguments fallback =>
    libraryPath ["messages", "resolve_resource"] ++
      parens (terminate
        [method context "catalog", textLiteral key, slice (arguments.map pair), textLiteral fallback])

def negated (trees : List Tree) : List Tree :=
  punct "!" ++ trees

def condition (c : Check) : List Tree :=
  let failed := negated (verdict (placeRef c.place) (sibling c.sibling) c.rule)
  match c.group with
  | none => failed
  | some group =>
    call (rulePath "group_matches") [someOf (textLiteral group), method context "active_group"] ++
      punct "&&" ++ failed

def check (c : Check) : List Tree :=
  let entry := call (libraryPath ["ValidationError", "new"])
    [textLiteral c.field, message c.message, c.severity.code.trees]
  word "if" ++ condition c ++ braces (result ++ punct "." ++ call (word "push") [entry] ++ punct ";")

def site (s : Site) : List Tree :=
  (DataExpr.struct (privateLibrary ["CustomSite"])
    [("model", .text s.model), ("field", .text s.field), ("label", .text s.label),
      ("validator", .text s.validator)] true).trees

def customCall (place : String) (function : Path) (s : Site) (isAsync : Bool) : List Tree :=
  let runner := if isAsync then "run_async_custom" else "run_sync_custom"
  call (rooted (privateLibrary [runner]))
      [function.trees, placeRef place, context, punct "&" ++ site s, punct "&" ++ word "mut" ++ result] ++
    (if isAsync then punct "." ++ word "await" else []) ++ punct ";"

def compileError : List Tree :=
  rooted ["core", "compile_error"] ++ punct "!"

def statement : Statement → List Tree
  | .sanitize place directive =>
    call (libraryPath ["FieldValue", "sanitize"]) [placeMut place, punct "&" ++ directive.code.trees] ++
      punct ";"
  | .check c => check c
  | .call place function s isAsync => customCall place function s isAsync
  | .missing validator =>
    compileError ++
      parens (textLiteral
        s!"no function path recorded for custom validator \x60{validator}\x60") ++ punct ";"
  | .hook function =>
    let run := call (rooted (privateLibrary ["run_hook"]))
      [function.trees, punct "&*" ++ word "self", context]
    result ++ punct "." ++ call (word "extend") [run] ++ punct ";"

/-- Parameters in angle brackets: lifetimes first, then all others. A comma is added where a lifetime would
stand right before another parameter. -/
def parameterList (form : Parameter → List Tree) (parameters : List Parameter) : List Tree :=
  let lifetimes := parameters.filter (·.kind == .lifetime)
  let others := parameters.filter (·.kind != .lifetime)
  let entry (p : Parameter) : List Tree := form p ++ (if p.comma then punct "," else [])
  let joined := !others.isEmpty && lifetimes.getLast?.any fun p => !p.comma
  if parameters.isEmpty then []
  else
    punct "<" ++ lifetimes.flatMap entry ++ (if joined then punct "," else []) ++ others.flatMap entry ++
      punct ">"

def implHead (m : AnnotatedModel) (trait : String) : List Tree :=
  punct "#" ++ brackets (word "automatically_derived") ++ word "impl" ++
    parameterList (fun p => p.attributes ++ p.declared) m.generics.parameters ++ libraryPath [trait] ++
    word "for" ++ [m.ident.tree] ++ parameterList (fun p => [p.name]) m.generics.parameters ++
    m.generics.conditions

def signature (name : String) (parameters : List Tree) (type : List Tree) : List Tree :=
  word "fn" ++ word name ++ parens parameters ++ punct "->" ++ type

def region : List Tree :=
  lifetime "__precheck"

def validateSignature : List Tree :=
  let subject := punct "&" ++ region ++ word "mut" ++ word "self"
  let given := context ++ punct ":" ++ punct "&" ++ region ++ libraryPath ["ValidationContext"]
  let type := libraryPath ["BoxFuture"] ++ punct "<" ++ region ++ punct "," ++
    libraryPath ["ValidationResult"] ++ punct ">"
  word "fn" ++ word "validate" ++ punct "<" ++ region ++ punct ">" ++
    parens (terminate [subject, given]) ++ punct "->" ++ type

def validateBody (r : Routine) : List Tree :=
  let start := punct "#" ++ brackets (word "allow" ++ parens (word "unused_mut")) ++ word "let" ++
    word "mut" ++ result ++ punct "=" ++ libraryPath ["ValidationResult", "new"] ++ parens [] ++ punct ";"
  let block := word "async" ++ word "move" ++
    braces (start ++ r.statements.flatMap statement ++ result)
  call (rooted ["std", "boxed", "Box", "pin"]) [block]

def validation (m : AnnotatedModel) (p : Plan) : List Tree :=
  implHead m "Validate" ++
    braces (validateSignature ++ braces (validateBody (.ofPlan m p)) ++
      signature "declaration" [] (libraryPath ["ModelDeclaration"]) ++
      braces m.declaration.code.trees ++
      signature "constraint_summary" [] (libraryPath ["ConstraintSummary"]) ++
      braces (Summary.ofPlan p).code.trees)

def arrow : List Tree :=
  punct "=>"

def byName (arms : List Tree) : List Tree :=
  word "match" ++ word "__name" ++ braces arms

def readArm (f : AnnotatedField) : List Tree :=
  let read := call (libraryPath ["FieldValue", "to_value"]) [placeRef f.ident.spelling]
  textLiteral f.name ++ arrow ++ someOf read ++ punct ","

def sanitizeArm (f : AnnotatedField) : List Tree :=
  let sanitize := call (libraryPath ["FieldValue", "sanitize"])
    [placeMut f.ident.spelling, word "__directive"]
  textLiteral f.name ++ arrow ++ braces (sanitize ++ punct ";" ++ word "true")

def otherArm (content : List Tree) : List Tree :=
  word "_" ++ arrow ++ content ++ punct ","

def nameParameter : List Tree :=
  word "__name" ++ punct ":" ++ punct "&" ++ word "str"

def selfRef : List Tree :=
  punct "&" ++ word "self"

def record (m : AnnotatedModel) : List Tree :=
  let optionalValue := rooted ["core", "option", "Option"] ++ punct "<" ++ libraryPath ["Value"] ++ punct ">"
  let directive := word "__directive" ++ punct ":" ++ punct "&" ++ libraryPath ["SanitizeDirective"]
  implHead m "Record" ++
    braces (signature "model_name" selfRef (punct "&" ++ word "str") ++ braces (textLiteral m.name) ++
      signature "field_value" (separate [selfRef, nameParameter]) optionalValue ++
      braces (byName (m.fields.flatMap readArm ++ otherArm noneOf)) ++
      signature "sanitize_field"
        (separate [punct "&" ++ word "mut" ++ word "self", nameParameter, directive]) (word "bool") ++
      braces (byName (m.fields.flatMap sanitizeArm ++ otherArm (word "false"))))

def ofModel (m : AnnotatedModel) : List Tree :=
  let p := Plan.ofDeclaration m.declaration
  validation m p ++ record m

def ofDiagnostics (diagnostics : List Diagnostic) : List Tree :=
  diagnostics.flatMap fun d => compileError ++ braces (textLiteral d.message)

/-- What takes the place of an item: the code for it, or the diagnostics that there is none. -/
def derived (i : Item) : List Tree :=
  match AnnotatedModel.ofItem i with
  | .ok m => ofModel m
  | .error diagnostics => ofDiagnostics diagnostics

end Code
end FieldRules.Derive
