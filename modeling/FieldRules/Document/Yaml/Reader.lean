import FieldRules.Document.Yaml.Scalar
import FieldRules.Document.Yaml.Token

/-!
# Reading YAML

The tokens of a text are read into the one document that it holds.
-/
set_option autoImplicit false

namespace FieldRules.Yaml

/-- What is left of the tokens, and what the names in them stand for. -/
structure Source where
  tokens : List Token
  /-- The nodes with a name. A node that is not finished yet has no value. -/
  anchors : List (String × Document)
  /-- What the handles of tags are short for. -/
  handles : List (String × String)

abbrev Reading := StateT Source Option

namespace Reading

def stuck {α : Type} : Reading α :=
  fun _ => none

def peek : Reading (Option Token) :=
  fun s => some (s.tokens.head?, s)

def skip : Reading Unit :=
  fun s => some ((), { s with tokens := s.tokens.tail })

def accept (token : Token) : Reading Bool :=
  fun s => if s.tokens.head? == some token then some (true, { s with tokens := s.tokens.tail }) else some (false, s)

def expect (token : Token) : Reading Unit := do
  if (← accept token) then pure () else stuck

def at? (tokens : List Token) : Reading Bool := do
  match (← peek) with
  | some t => pure (tokens.contains t)
  | none => pure false

def name (anchor : Option String) (d : Document) : Reading Unit :=
  match anchor with
  | some a => fun s => some ((), { s with anchors := (a, d) :: s.anchors })
  | none => pure ()

def named (a : String) : Reading Document :=
  fun s => (s.anchors.lookup a).map fun d => (d, s)

def expand (handle suffix : String) : Reading String :=
  fun s =>
    if handle.isEmpty then some (suffix, s)
    else (s.handles.lookup handle).map fun p => (p ++ suffix, s)

def anchor? : Reading (Option String) := do
  match (← peek) with
  | some (.anchor a) => do skip; pure (some a)
  | _ => pure none

def tag? : Reading (Option String) := do
  match (← peek) with
  | some (.tag handle suffix) => do skip; some <$> expand handle suffix
  | _ => pure none

/-- The anchor and the tag in front of a node, in either order. -/
def properties : Reading (Option String × Option String) := do
  match (← anchor?) with
  | some a => pure (some a, ← tag?)
  | none =>
    match (← tag?) with
    | some t => pure (← anchor?, some t)
    | none => pure (none, none)

end Reading

open Reading

def nothing : Document :=
  plain ""

/-- Lists and maps are read up to this depth; deeper ones have no value. -/
def depthLimit : Nat := 128

/-- The node of a map. One with a key that is no scalar has no value. -/
def mapOf (entries : List (Document × Document)) : Document :=
  match entries.mapM fun e => e.1.text?.map fun key => (key, e.2) with
  | some entries => .map entries
  | none => .irregular

def within (depth : Nat) (d : Document) : Document :=
  if depth < depthLimit then d else .irregular

/-- Where a node stands: what it may be depends on that. -/
inductive Place where
  /-- Inside brackets. -/
  | flow
  | block
  /-- In a block map, where the items of a list need no further indentation. -/
  | entry
  deriving DecidableEq

mutual

def node (fuel depth : Nat) (place : Place) : Reading Document :=
  match fuel with
  | 0 => stuck
  | fuel + 1 => do
    match (← peek) with
    | some (.alias a) => do skip; named a
    | _ => do
      let (anchor, tag) ← properties
      name anchor .irregular
      let d ← content fuel depth place tag (anchor.isSome || tag.isSome)
      name anchor d
      pure d

def content (fuel depth : Nat) (place : Place) (tag : Option String) (adorned : Bool) : Reading Document :=
  match fuel with
  | 0 => stuck
  | fuel + 1 => do
    let close (d : Document) : Document := collection tag (within depth d)
    match (← peek), place with
    | some (.scalar quoted s), _ => do skip; pure (scalar tag quoted s)
    | some .listItem, .entry => do pure (close (.list (← looseItems fuel (depth + 1) [])))
    | some .flowListStart, _ => do skip; pure (close (.list (← flowItems fuel (depth + 1) true [])))
    | some .flowMapStart, _ => do skip; pure (close (mapOf (← flowEntries fuel (depth + 1) true [])))
    | some .blockListStart, .block => do skip; pure (close (.list (← blockItems fuel (depth + 1) [])))
    | some .blockListStart, .entry => do skip; pure (close (.list (← blockItems fuel (depth + 1) [])))
    | some .blockMapStart, .block => do skip; pure (close (mapOf (← blockEntries fuel (depth + 1) [])))
    | some .blockMapStart, .entry => do skip; pure (close (mapOf (← blockEntries fuel (depth + 1) [])))
    | _, _ => if adorned then pure (scalar tag false "") else stuck

def nodeUnless (fuel depth : Nat) (place : Place) (ends : List Token) : Reading Document :=
  match fuel with
  | 0 => stuck
  | fuel + 1 => do
    if (← at? ends) then pure nothing else node fuel depth place

def blockItems (fuel depth : Nat) (items : List Document) : Reading (List Document) :=
  match fuel with
  | 0 => stuck
  | fuel + 1 => do
    if (← accept .listItem) then do
      let d ← nodeUnless fuel depth .block [.listItem, .blockEnd]
      blockItems fuel depth (d :: items)
    else do
      expect .blockEnd
      pure items.reverse

/-- The items of a list that is not indented below its key. -/
def looseItems (fuel depth : Nat) (items : List Document) : Reading (List Document) :=
  match fuel with
  | 0 => stuck
  | fuel + 1 => do
    if (← accept .listItem) then do
      let d ← nodeUnless fuel depth .block [.listItem, .key, .value, .blockEnd]
      looseItems fuel depth (d :: items)
    else pure items.reverse

def blockEntries (fuel depth : Nat) (entries : List (Document × Document)) :
    Reading (List (Document × Document)) :=
  match fuel with
  | 0 => stuck
  | fuel + 1 => do
    if (← accept .key) then do
      let k ← nodeUnless fuel depth .entry [.key, .value, .blockEnd]
      let v ← valueAfter fuel depth .entry [.key, .value, .blockEnd]
      blockEntries fuel depth ((k, v) :: entries)
    else do
      expect .blockEnd
      pure entries.reverse

def valueAfter (fuel depth : Nat) (place : Place) (ends : List Token) : Reading Document :=
  match fuel with
  | 0 => stuck
  | fuel + 1 => do
    if (← accept .value) then nodeUnless fuel depth place ends else pure nothing

/-- The items between square brackets. An item with a key is a map of one entry. -/
def flowItems (fuel depth : Nat) (first : Bool) (items : List Document) : Reading (List Document) :=
  match fuel with
  | 0 => stuck
  | fuel + 1 => do
    if (← accept .flowListEnd) then pure items.reverse
    else do
      if !first then expect .comma
      if (← accept .flowListEnd) then pure items.reverse
      else do
        let d ← flowItem fuel depth
        flowItems fuel depth false (d :: items)

def flowItem (fuel depth : Nat) : Reading Document :=
  match fuel with
  | 0 => stuck
  | fuel + 1 => do
    if (← accept .key) then do
      let k ← nodeUnless fuel (depth + 1) .flow [.value, .comma, .flowListEnd]
      let v ← valueAfter fuel (depth + 1) .flow [.comma, .flowListEnd]
      pure (within depth (mapOf [(k, v)]))
    else node fuel depth .flow

/-- The entries between curly brackets. A lone key has an empty value. -/
def flowEntries (fuel depth : Nat) (first : Bool) (entries : List (Document × Document)) :
    Reading (List (Document × Document)) :=
  match fuel with
  | 0 => stuck
  | fuel + 1 => do
    if (← accept .flowMapEnd) then pure entries.reverse
    else do
      if !first then expect .comma
      if (← accept .flowMapEnd) then pure entries.reverse
      else if (← accept .key) then do
        let k ← nodeUnless fuel depth .flow [.value, .comma, .flowMapEnd]
        let v ← valueAfter fuel depth .flow [.comma, .flowMapEnd]
        flowEntries fuel depth false ((k, v) :: entries)
      else do
        let k ← node fuel depth .flow
        flowEntries fuel depth false ((k, nothing) :: entries)

end

def commonHandles : List (String × String) :=
  [("!", "!"), ("!!", "tag:yaml.org,2002:")]

/-- The directives in front of a document: at most one version, and each handle once. -/
def directives? (version : Bool) (handles : List (String × String)) :
    List Token → Option (List (String × String) × List Token)
  | .version :: rest => if version then none else directives? true handles rest
  | .tagPrefix handle replacement :: rest =>
    if (handles.map Prod.fst).contains handle then none
    else directives? version (handles ++ [(handle, replacement)]) rest
  | rest => some (handles ++ commonHandles, rest)

def startsDocument : Option Token → Bool
  | some .version => true
  | some (.tagPrefix _ _) => true
  | some .documentStart => true
  | _ => false

/-- The root node of a document that starts with a mark; it may be empty. -/
def markedRoot (fuel : Nat) : Reading Document := do
  expect .documentStart
  match (← peek) with
  | none => pure nothing
  | some .documentEnd => pure nothing
  | t => if startsDocument t then pure nothing else node fuel 0 .block

def root? (tokens : List Token) : Option (Document × Source) :=
  let fuel := 4 * tokens.length + 4
  if tokens.isEmpty then some (nothing, ⟨[], [], []⟩)
  else if startsDocument tokens.head? then do
    let (handles, tokens) ← directives? false [] tokens
    (markedRoot fuel).run ⟨tokens, [], handles⟩
  else (node fuel 0 .block).run ⟨tokens, [], commonHandles⟩

/-- The one document that a YAML text holds; a text without one is empty. -/
def read? (text : String) : Option Document := do
  let tokens ← tokens? text
  let (d, left) ← root? tokens
  if (left.tokens.dropWhile (· == .documentEnd)).isEmpty then some d else none

end FieldRules.Yaml
