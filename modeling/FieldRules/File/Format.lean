import FieldRules.Document.Json.Reader
import FieldRules.Document.Members
import FieldRules.Document.Toml.Reader
import FieldRules.Document.Yaml.Reader

/-!
# File formats

The three formats of files, and how the extension of a path names one.
-/
set_option autoImplicit false

namespace FieldRules

inductive FileFormat where
  | toml
  | yaml
  | json
  deriving DecidableEq

namespace Path

/-- The parts of a path. A part that means the same place counts only at the very start. -/
def components (path : String) : List String :=
  let parts := path.splitOn "/"
  let named (s : String) : Bool := !s.isEmpty && s != "."
  match parts with
  | "." :: rest => "." :: rest.filter named
  | parts => parts.filter named

def fileName? (path : String) : Option String :=
  (components path).getLast?.filter fun s => s != "." && s != ".."

/-- The text behind the last dot of the file name. A dot at its start does not count. -/
def extension? (path : String) : Option String :=
  (fileName? path).bind fun name =>
    let s := name.toList.reverse
    let tail := s.takeWhile (· != '.')
    match s.drop tail.length with
    | _ :: _ :: _ => some (String.ofList tail.reverse)
    | _ => none

end Path

namespace FileFormat

def name : FileFormat → String
  | toml => "toml"
  | yaml => "yaml"
  | json => "json"

def ofName? (name : String) : Option FileFormat :=
  [toml, yaml, json].find? fun f => f.name == name

def extensions : List (String × FileFormat) :=
  [("toml", toml), ("yaml", yaml), ("yml", yaml), ("json", json)]

def ofPath? (path : String) : Option FileFormat :=
  (Path.extension? path).bind fun e => extensions.lookup e

def form : FileFormat → VariantForm
  | toml => .emptyEntry
  | yaml => .tag
  | json => .entry

def read? : FileFormat → String → Option Document
  | toml => Toml.read?
  | yaml => Yaml.read?
  | json => Json.read?

end FileFormat
end FieldRules
