import Bystander.Yaml.Node
import Bystander.Yaml.Value
/-! # Documents

The tree of nodes of a document becomes a tree of data.  Entries of merged mappings come before the own ones, which win
where keys are the same.  If several things are wrong the one nearest to the root is told, and of those the first.
-/
namespace Bystander.Yaml

/-- A part of a document, or what is wrong with it and how deep that lies. -/
abbrev Judged (β : Type) := Except (Nat × Trouble) β

namespace Judged

variable {β γ : Type}

def wrong (depth : Nat) (t : Trouble) : Judged β := .error (depth, t)

def placed (depth : Nat) : Except Trouble β → Judged β
  | .ok b => .ok b
  | .error t => .error (depth, t)

def both (a : Judged β) (b : Judged γ) : Judged (β × γ) :=
  match a, b with
  | .ok a, .ok b => .ok (a, b)
  | .ok _, .error e => .error e
  | .error e, .ok _ => .error e
  | .error (m, s), .error (n, t) => if n < m then .error (n, t) else .error (m, s)

def all : List (Judged β) → Judged (List β)
  | [] => .ok []
  | a :: rest => (both a (all rest)).map fun (b, bs) => b :: bs

end Judged

namespace Node

mutual

/-- How many nodes lie one inside the other. -/
def height : Node → Nat
  | .scalar _ _ => 1
  | .sequence _ items => itemsHeight items + 1
  | .mapping _ entries => entriesHeight entries + 1

def itemsHeight : List Node → Nat
  | [] => 0
  | item :: rest => max item.height (itemsHeight rest)

def entriesHeight : List (Node × Node) → Nat
  | [] => 0
  | (key, value) :: rest => max (max key.height value.height) (entriesHeight rest)

end

/-- The text of a node: a mapping may have a stand-in. -/
def text? : Nat → Node → Option String
  | _, .scalar _ text => some text
  | fuel + 1, .mapping _ entries =>
    (entries.find? fun (key, _) => key.kind == .standIn).bind fun (_, value) => text? fuel value
  | _, _ => none

/-- A key that asks to be taken for another is, inside a mapping, a text. -/
def plainKey : Node → Node
  | .scalar kind text => .scalar (if kind == .standIn then .text else kind) text
  | .sequence kind items => .sequence (if kind == .standIn then .text else kind) items
  | .mapping kind entries => .mapping (if kind == .standIn then .text else kind) entries

/-- The entries of a mapping behind those of the mappings that are merged into it; of a list of these the last comes
first. -/
def mergedEntries : Nat → List (Node × Node) → Except Trouble (List (Node × Node))
  | 0, entries => .ok entries
  | fuel + 1, entries => do
    let (merges, own) := entries.partition fun (key, _) => key.kind == .merge
    let inner := fun (node : Node) =>
      match node with
      | .mapping _ entries => mergedEntries fuel entries
      | _ => .error (.kind "a mapping to merge")
    let added ← merges.mapM fun (_, value) =>
      match value with
      | .sequence _ items => do return (← items.mapM inner).reverse.flatten
      | value => inner value
    return added.flatten ++ own.map fun (key, value) => (plainKey key, value)

/-- The data of a node that lies at a depth. -/
def data : Nat → Nat → Node → Judged Data
  | 0, depth, _ => .wrong depth (.unfinished "the document")
  | fuel + 1, depth, node =>
    let entries := fun (entries : List (Node × Node)) =>
      (Judged.placed (depth + 1) (mergedEntries fuel entries)).bind fun entries =>
        Judged.all (entries.map fun (key, value) =>
          Judged.both
            (if key.kind.hasParts then .wrong (depth + 1) (.kind "a key of one piece") else data fuel (depth + 1) key)
            (data fuel (depth + 1) value))
    let single := fun (item : Node) =>
      match item with
      | .mapping _ [(key, value)] =>
        (Judged.both (data fuel (depth + 1) key) (data fuel (depth + 1) value)).map fun _ => Data.other "a pair"
      | _ => .wrong (depth + 1) (.kind "a mapping of one entry")
    let insertAll := fun (entries : List (Data × Data)) =>
      entries.foldl (fun acc (key, value) => Data.insertEntry key value acc) []
    match node.kind, node with
    | .sequence, .sequence _ items => (Judged.all (items.map (data fuel (depth + 1)))).map Data.list
    | .sequence, _ => .wrong (depth + 1) (.kind "a list")
    | .mapping, .mapping _ es => (entries es).map fun es => Data.map (insertAll es)
    | .mapping, _ => .wrong (depth + 1) (.kind "a mapping")
    | .set, .mapping _ es => (entries es).map fun es => Data.list ((insertAll es).map (·.1))
    | .set, _ => .wrong (depth + 1) (.kind "a mapping")
    | .ordered, .sequence _ items => (Judged.all (items.map single)).map Data.list
    | .ordered, _ => .wrong (depth + 1) (.kind "a list of single entries")
    | .pairs, .sequence _ items => (Judged.all (items.map single)).map Data.list
    | .pairs, _ => .wrong (depth + 1) (.kind "a list of single entries")
    | kind, node =>
      if !kind.hasText then .wrong depth (.kind "a known kind")
      else
        match text? node.height node with
        | none => .wrong depth (.kind "a text")
        | some text =>
          match kind, node with
          | .moment, .mapping _ _ => .wrong depth (.value .dateEntries)
          | _, _ => Judged.placed depth (textValue kind text)

end Node

/-- The data of a text; nothing at all is null. -/
def document (cs : List Char) : Except Trouble Data := do
  match ← Node.ofText? cs with
  | none => return .null
  | some root =>
    match root.data (root.height + 1) 0 with
    | .ok d => return d
    | .error (_, t) => throw t

end Bystander.Yaml
