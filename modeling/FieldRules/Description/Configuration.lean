import FieldRules.Configuration
import FieldRules.Description.Basic
import FieldRules.Document.Json.Printer

/-!
# Descriptions of settings

Configurations, contexts, and what goes wrong with files.
-/
set_option autoImplicit false

namespace FieldRules.Description

instance : Describe FaultPolicy := ⟨fun p => .text p.name⟩

instance : Describe Configuration where
  describe c :=
    members "fault_policy default_group message_catalog declarations"
      [describe c.faultPolicy, describe c.defaultGroup, describe c.catalogFile,
        describe c.declarationFiles]

def items (c : Context) : List (String × String) :=
  match Document.sorted (.map c.items) with
  | .map entries => entries.map fun (key, d) => (key, Json.print d)
  | _ => []

def settings (c : Context) : List (String × Document) :=
  [("group", describe c.group), ("fault_policy", describe c.policy),
    ("has_catalog", describe c.catalog.isSome), ("items", describe (items c))]

def formatName : FileFormat → String
  | .toml => "Toml"
  | .yaml => "Yaml"
  | .json => "Json"

def failureName : Failure → String
  | .noFile _ => "Io"
  | .unsupportedFormat _ => "UnsupportedFormat"
  | .unreadable format => formatName format
  | .configuration _ => "Config"

instance : Describe Failure where
  describe e :=
    .map (("error", describe (failureName e)) ::
      (e.message?.map fun message => ("message", describe message)).toList)

end FieldRules.Description
