import Bystander.Yaml.Kind
import Bystander.Yaml.Token
/-! # Nodes

Tokens are put together to a tree of nodes.  A node may have a tag, which tells its kind, and an anchor, under which it
can stand in other places too.  Where an anchor is used inside its own node it stands for an empty node of that kind.
-/
namespace Bystander.Yaml

/-- A document as a tree. -/
inductive Node where
  | scalar (kind : Kind) (text : String)
  | sequence (kind : Kind) (items : List Node)
  | mapping (kind : Kind) (entries : List (Node × Node))
deriving Inhabited

namespace Node

def kind : Node → Kind
  | .scalar kind _ => kind
  | .sequence kind _ => kind
  | .mapping kind _ => kind

/-- What stands where nothing is written. -/
def nothing : Node := .scalar .null ""

/-- The tokens that are left, and what names mean. -/
structure Source where
  tokens : List Token
  anchors : List (String × Node)
  handles : List (String × String)

/-- A step that takes tokens off a source. -/
abbrev Building := StateT Source (Except Trouble)

def peek : Building (Option Token) := do return (← get).tokens.head?

def skip : Building Unit := modify fun s => { s with tokens := s.tokens.tail }

def accept (token : Token) : Building Bool := do
  if (← peek) == some token then
    skip
    return true
  else return false

def nextIsOf (tokens : List Token) : Building Bool := do return (← peek).any tokens.contains

/-! ## Names and tags -/

def anchor? : Building (Option String) := do
  match ← peek with
  | some (.anchor name) =>
    skip
    return some name
  | _ => return none

/-- The tag that is next, if one is, as its parts. -/
def tagParts? : Building (Option (Option String × String)) := do
  match ← peek with
  | some (.tag handle rest) =>
    skip
    return some (handle, rest)
  | _ => return none

def fullTag : Option String × String → Building String
  | (none, rest) => return rest
  | (some handle, rest) => do
    match (← get).handles.lookup handle with
    | some stem => return stem ++ rest
    | none => throw (.name "a handle")

/-- The anchor and the tag of a node, in either order. -/
def properties : Building (Option String × Option String) := do
  let anchor ← anchor?
  let parts ← tagParts?
  let anchor ← if anchor.isNone && parts.isSome then anchor? else pure anchor
  match parts with
  | none => return (anchor, none)
  | some parts => return (anchor, ← fullTag parts)

def bind (name : Option String) (node : Node) : Building Unit :=
  modify fun s => { s with anchors := (name.map fun n => (n, node)).toList ++ s.anchors }

def checkFree (name : Option String) : Building Unit := do
  if let some n := name then
    if ((← get).anchors.lookup n).isSome then throw (.name "an anchor that stands twice")

/-- The kind of a scalar; the empty tag asks to look at its text even between quotes. -/
def scalarKind (tag : Option String) (plain : Bool) (text : String) : Kind :=
  match tag with
  | none => if plain then .ofText text.toList else .text
  | some tag => if tag == "!" then .ofText text.toList else .ofTag tag

/-- The kind of a node with parts. -/
def partsKind (tag : Option String) (kind : Kind) : Kind :=
  match tag with
  | none => kind
  | some tag => if tag == "!" then kind else .ofTag tag

/-! ## Nodes with parts -/

/-- Where a node stands: whether blocks may begin there, and whether entries may stand there without a block of their
own, as they may behind a key. -/
structure Surroundings where
  block : Bool
  loose : Bool

/-- A node of several parts, bound to its name while its parts are read and afterwards. -/
def whole {β : Type} (name : Option String) (make : List β → Node) (parts : Building (List β)) : Building Node := do
  bind name (make [])
  let node := make (← parts)
  bind name node
  return node

mutual

def node (around : Surroundings) : Nat → Building Node
  | 0 => throw (.unfinished "the document")
  | fuel + 1 => do
    match ← peek with
    | some (.alias name) =>
      skip
      match (← get).anchors.lookup name with
      | some node => return node
      | none => throw (.name "an alias")
    | _ =>
      let (name, tag) ← properties
      let sequence := fun items => Node.sequence (partsKind tag .sequence) items
      let mapping := fun entries => Node.mapping (partsKind tag .mapping) entries
      match ← peek with
      | some (.scalar plain text) =>
        checkFree name
        skip
        let node := Node.scalar (scalarKind tag plain text) text
        bind name node
        return node
      | some .entry =>
        if around.loose then
          checkFree name
          whole name sequence (looseItems fuel)
        else empty name tag
      | some .bracketOpen =>
        checkFree name
        skip
        whole name sequence (flowItems true fuel)
      | some .braceOpen =>
        checkFree name
        skip
        whole name mapping (flowEntries true fuel)
      | some .sequenceStart =>
        if around.block then
          checkFree name
          skip
          whole name sequence (blockItems fuel)
        else empty name tag
      | some .mappingStart =>
        if around.block then
          checkFree name
          skip
          whole name mapping (blockEntries fuel)
        else empty name tag
      | _ => empty name tag
where
  /-- A node of nothing but its name or its tag. -/
  empty (name tag : Option String) : Building Node := do
    if name.isNone && tag.isNone then throw (.unexpected "this in place of a node")
    checkFree name
    let node := Node.scalar (scalarKind tag true "") ""
    bind name node
    return node

/-- A node unless one of some tokens is next. -/
def nodeUnless (stops : List Token) (around : Surroundings) : Nat → Building Node
  | 0 => throw (.unfinished "the document")
  | fuel + 1 => do
    if ← nextIsOf stops then return nothing else node around fuel

/-- The value behind a key, if its mark is there. -/
def valueUnless (stops : List Token) (around : Surroundings) : Nat → Building Node
  | 0 => throw (.unfinished "the document")
  | fuel + 1 => do
    if ← accept .value then nodeUnless stops around fuel else return nothing

def blockItems : Nat → Building (List Node)
  | 0 => throw (.unfinished "the document")
  | fuel + 1 => do
    if ← accept .entry then
      let item ← nodeUnless [.entry, .blockEnd] ⟨true, false⟩ fuel
      return item :: (← blockItems fuel)
    else if ← accept .blockEnd then return []
    else throw (.unexpected "this in a list")

/-- The entries of a list without a block of its own. -/
def looseItems : Nat → Building (List Node)
  | 0 => throw (.unfinished "the document")
  | fuel + 1 => do
    if ← accept .entry then
      let item ← nodeUnless [.entry, .key, .value, .blockEnd] ⟨true, false⟩ fuel
      return item :: (← looseItems fuel)
    else return []

def blockEntries : Nat → Building (List (Node × Node))
  | 0 => throw (.unfinished "the document")
  | fuel + 1 => do
    let stops := [.key, .value, .blockEnd]
    if ← accept .key then
      let key ← nodeUnless stops ⟨true, true⟩ fuel
      let value ← valueUnless stops ⟨true, true⟩ fuel
      return (key, value) :: (← blockEntries fuel)
    else if ← accept .blockEnd then return []
    else throw (.unexpected "this in a mapping")

/-- The items of a list in brackets; a single entry may stand for a mapping of one. -/
def flowItems (first : Bool) : Nat → Building (List Node)
  | 0 => throw (.unfinished "the document")
  | fuel + 1 => do
    if ← accept .bracketClose then return []
    if !first then
      if !(← accept .comma) then throw (.unexpected "this in a list")
    if ← accept .key then
      let key ← nodeUnless [.value, .comma, .bracketClose] ⟨false, false⟩ fuel
      let value ← valueUnless [.comma, .bracketClose] ⟨false, false⟩ fuel
      return .mapping .mapping [(key, value)] :: (← flowItems false fuel)
    else if ← accept .bracketClose then return []
    else
      let item ← node ⟨false, false⟩ fuel
      return item :: (← flowItems false fuel)

/-- The entries of a mapping in braces; a node alone is a key without a value. -/
def flowEntries (first : Bool) : Nat → Building (List (Node × Node))
  | 0 => throw (.unfinished "the document")
  | fuel + 1 => do
    if ← accept .braceClose then return []
    if !first then
      if !(← accept .comma) then throw (.unexpected "this in a mapping")
    if ← accept .key then
      let key ← nodeUnless [.value, .comma, .braceClose] ⟨false, false⟩ fuel
      let value ← valueUnless [.comma, .braceClose] ⟨false, false⟩ fuel
      return (key, value) :: (← flowEntries false fuel)
    else if ← accept .braceClose then return []
    else
      let key ← node ⟨false, false⟩ fuel
      return (key, nothing) :: (← flowEntries false fuel)

end

/-! ## Documents -/

/-- The handles that need no directive. -/
def standardHandles : List (String × String) := [("!", "!"), ("!!", Kind.common)]

/-- The directives before a document; each may stand once. -/
def directives (versioned : Bool) (handles : List (String × String)) : List Token → Building Unit
  | .version major :: rest => do
    if versioned || major != 1 then throw (.unexpected "this version")
    directives true handles rest
  | .shorthand handle stem :: rest => do
    if (handles.lookup handle).isSome then throw (.name "a handle that stands twice")
    directives versioned ((handle, stem) :: handles) rest
  | .remark :: rest => directives versioned handles rest
  | tokens => modify fun s => { s with tokens := tokens, handles := handles ++ standardHandles }

def isDirective : Token → Bool
  | .version _ => true
  | .shorthand _ _ => true
  | .remark => true
  | _ => false

/-- The only document of a source; none if nothing is there. -/
def document (fuel : Nat) : Building (Option Node) := do
  match ← peek with
  | none => return none
  | some first =>
    let root ←
      if isDirective first || first == .documentStart then do
        directives false [] (← get).tokens
        if !(← accept .documentStart) then throw (.unexpected "this behind a directive")
        if (← peek).all fun t => isDirective t || t == .documentStart || t == .documentEnd then pure nothing
        else node ⟨true, false⟩ fuel
      else node ⟨true, false⟩ fuel
    modify fun s => { s with tokens := s.tokens.dropWhile (· == .documentEnd) }
    if (← peek).isSome then throw (.unexpected "this behind the document")
    return root

/-- The tree of a text. -/
def ofText? (cs : List Char) : Except Trouble (Option Node) := do
  let tokens ← tokens cs
  let (root, _) ← (document (3 * tokens.length + 3)).run ⟨tokens, [], standardHandles⟩
  return root

end Node
end Bystander.Yaml
