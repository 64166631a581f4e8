import FieldRules.Context
import FieldRules.File.Contents

/-!
# Configuration

Settings that contexts are made from: the fault policy, the group, the message catalog, and the files with
declarations. They come from a file and may be overridden by variables.
-/
set_option autoImplicit false

namespace FieldRules

structure Configuration where
  faultPolicy : FaultPolicy := .absorb
  defaultGroup : Option String := none
  /-- The file of the message catalog. -/
  catalogFile : Option String := none
  declarationFiles : List String := []
  deriving DecidableEq

namespace Configuration

def names : List String :=
  ["fault_policy", "default_group", "message_catalog", "declarations"]

def ofDocument? (form : VariantForm) (d : Document) : Option Configuration := do
  let m ← d.members? names
  let policy (d : Document) : Option FaultPolicy := (d.unitVariant? form).bind FaultPolicy.ofName?
  let faultPolicy ← m.orElse "fault_policy" policy .absorb
  let defaultGroup ← m.optional "default_group" Document.text?
  let catalogFile ← m.optional "message_catalog" Document.text?
  let declarationFiles ← m.orElse "declarations" (Document.items? Document.text?) []
  some { faultPolicy, defaultGroup, catalogFile, declarationFiles }

def toDocument (c : Configuration) : Document :=
  .map [("fault_policy", .text c.faultPolicy.name), ("default_group", Document.orNull .text c.defaultGroup),
    ("message_catalog", Document.orNull .text c.catalogFile),
    ("declarations", .list (c.declarationFiles.map .text))]

def parse (format : FileFormat) (text : String) : Except Failure Configuration :=
  format.parse ofDocument? text

def policyVariable : String :=
  "PRECHECK_FAULT_POLICY"

/-- The variable that sets the group; a blank one takes it away. -/
def groupVariable : String :=
  "PRECHECK_DEFAULT_GROUP"

def overridePolicy (c : Configuration) (text : String) : Except Failure Configuration :=
  match FaultPolicy.read? text with
  | some p => .ok { c with faultPolicy := p }
  | none => .error (.configuration s!"{policyVariable} must be 'absorb' or 'report', got '{text}'")

def overrideGroup (c : Configuration) (text : String) : Configuration :=
  let group := Text.trim text
  { c with defaultGroup := if group.isEmpty then none else some group }

def override (c : Configuration) (lookup : String → Option String) : Except Failure Configuration := do
  let c ← match lookup policyVariable with
    | some text => c.overridePolicy text
    | none => .ok c
  .ok (match lookup groupVariable with
    | some text => c.overrideGroup text
    | none => c)

def load (files : Files) (lookup : String → Option String) (path : Option String) :
    Except Failure Configuration := do
  let c ← match path with
    | some path => files.load ofDocument? path
    | none => .ok {}
  c.override lookup

def context (c : Configuration) (files : Files) : Except Failure Context := do
  let catalog ← match c.catalogFile with
    | some path => some <$> Catalog.load files path
    | none => .ok none
  .ok { group := c.defaultGroup, catalog, policy := c.faultPolicy }

/-- The models of all declaration files, in the order of the files. -/
def loadDeclarations (c : Configuration) (files : Files) : Except Failure (List ModelDeclaration) := do
  let models ← c.declarationFiles.mapM (ModelDeclaration.load files)
  .ok models.flatten

end Configuration
end FieldRules
