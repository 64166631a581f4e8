import FieldRules.Derive.Model
import FieldRules.Description.Declaration

/-!
# Descriptions of annotated sources

Attributes, annotated models and diagnostics, with their places. Code is shown as its tokens.
-/
set_option autoImplicit false

namespace FieldRules.Description

open Source Derive

instance : Describe Spot := ⟨fun s => describe (s.line, s.column)⟩

instance : Describe Diagnostic := ⟨fun d => members "message at" [describe d.message, describe d.spot]⟩

def tokens (trees : List Tree) : Document :=
  .text (spell trees)

instance : Describe Source.Path := ⟨fun p => tokens p.trees⟩

instance : Describe Term := ⟨fun t => tokens t.trees⟩

instance : Describe Ident := ⟨fun i => .text i.spelling⟩

instance : Describe Argument where
  describe
    | .flag name => members "flag" [describe name]
    | .named name value => members "named value" [describe name, describe value]
    | .positional value => members "positional" [describe value]

def hasParentheses : ItemContent → Bool
  | .arguments _ => true
  | _ => false

instance : Describe AttributeItem where
  describe i :=
    members "label ident is_label at value parens args"
      [describe i.label, describe i.name, describe !i.name.raw, describe i.spot, describe i.value?,
        describe (hasParentheses i.content), describe i.arguments]

instance : Describe AnnotatedField where
  describe f :=
    members "ident at constraints_at customs"
      [describe f.ident, describe f.ident.spot, describe f.constraintSpots, describe f.paths]

instance : Describe AnnotatedModel where
  describe m :=
    members "ident declaration hook fields"
      [describe m.ident, describe m.declaration, describe m.hook, describe m.fields]

end FieldRules.Description
