import FieldRules.Declaration.Document
import FieldRules.File.Failure
import FieldRules.Message
import FieldRules.Record.Document

/-!
# What files hold

Declarations of models and catalogs of messages, and records given as plain maps.
-/
set_option autoImplicit false

namespace FieldRules

namespace ModelDeclaration

def listOfDocument? (form : VariantForm) (d : Document) : Option (List ModelDeclaration) := do
  let m ← d.members? ["models"]
  m.orElse "models" (Document.items? (ofDocument? form)) []

def parse (format : FileFormat) (text : String) : Except Failure (List ModelDeclaration) :=
  format.parse listOfDocument? text

def load (files : Files) (path : String) : Except Failure (List ModelDeclaration) :=
  files.load listOfDocument? path

end ModelDeclaration

namespace Catalog

def ofDocument? (d : Document) : Option Catalog :=
  d.keyed? Document.text?

def parse (format : FileFormat) (text : String) : Except Failure Catalog :=
  format.parse (fun _ => ofDocument?) text

def load (files : Files) (path : String) : Except Failure Catalog :=
  files.load (fun _ => ofDocument?) path

end Catalog

namespace DynamicRecord

/-- The record with the fields of a plain document, which has to be a map. -/
def parsePlain (name : String) (d : Document) : Except Failure DynamicRecord :=
  match ofPlain? name d with
  | some r => .ok r
  | none => .error (.configuration "record JSON must be an object")

end DynamicRecord
end FieldRules
