import DossierCompliance.Text.Utf8
import DossierCompliance.Yaml.Spelling

/-!
Reading typed records out of YAML: a document as the same kind of tree that is
read out of JSON. Every alias is replaced by the node with its anchor, as long
as the document stays within a depth and a number of replacements.
-/

namespace DossierCompliance.Yaml

open Json (Reading)

def depthLimit : Nat := 128

/-! ### Anchors -/

namespace Node

/-- A node under the number of its anchor, if it has one. -/
def anchored (number : Option Nat) (n : Node) : List (Nat × Node) :=
  (number.map fun k => (k, n)).toList

mutual

/-- All nodes with an anchor, outer ones before inner ones. -/
def allAnchored : Node → List (Nat × Node)
  | .alias _ => []
  | .scalar a t text isPlain => anchored a (.scalar a t text isPlain)
  | .sequence a t items => anchored a (.sequence a t items) ++ itemsAnchored items
  | .mapping a t entries => anchored a (.mapping a t entries) ++ entriesAnchored entries

def itemsAnchored : List Node → List (Nat × Node)
  | [] => []
  | item :: rest => item.allAnchored ++ itemsAnchored rest

def entriesAnchored : List (Node × Node) → List (Nat × Node)
  | [] => []
  | (key, value) :: rest => key.allAnchored ++ (value.allAnchored ++ entriesAnchored rest)

end

mutual

/-- The number of the parts that a node is made of, the ends of containers among them. -/
def weight : Node → Nat
  | .alias _ | .scalar _ _ _ _ => 1
  | .sequence _ _ items => 2 + itemsWeight items
  | .mapping _ _ entries => 2 + entriesWeight entries

def itemsWeight : List Node → Nat
  | [] => 0
  | item :: rest => item.weight + itemsWeight rest

def entriesWeight : List (Node × Node) → Nat
  | [] => 0
  | (key, value) :: rest => key.weight + value.weight + entriesWeight rest

end

end Node

/-! ### Readings -/

/-- The name in a tag of the application, if it is legible: what follows the
exclamation mark, or that mark if nothing does. -/
def ownName? (tag : TagBytes) : Option String :=
  if !isOwn tag then none
  else Text.Utf8.decode? (if tag.length == 1 then tag else tag.drop 1)

def scalarReading (tag : Option TagBytes) (text : String) (isPlain : Bool) : Reading :=
  let untagged := if isPlain then Reading.scalar text true (spelled text) else .string text
  match tag with
  | none => untagged
  | some tag =>
    match ownName? tag with
    | some name => .marked name untagged
    | none => .scalar text isPlain (spelledAs tag text isPlain)

/-- A container under its tag, which counts only where a value is wanted. -/
def tagged (tag : Option TagBytes) (r : Reading) : Reading :=
  match tag.bind ownName? with
  | some name => .marked name r
  | none => r

/-- Replacing aliases: the number of replacements that are left. -/
abbrev Expansion := StateT Nat Option

/-- The node that an alias stands for, at the cost of a replacement. -/
def deref (anchors : List (Nat × Node)) : Node → Expansion Node
  | .alias number => do
    let left ← get
    if left == 0 then failure
    set (left - 1)
    match anchors.lookup number with
    | some n => return n
    | none => failure
  | n => return n

/-- The reading of a node inside which containers may be nested `depth` deep. -/
def expand (anchors : List (Nat × Node)) (depth : Nat) (n : Node) : Expansion Reading :=
  match depth with
  | 0 => do
    match ← deref anchors n with
    | .scalar _ tag text isPlain => return scalarReading tag text isPlain
    | _ => failure
  | depth + 1 => do
    match ← deref anchors n with
    | .alias _ => failure
    | .scalar _ tag text isPlain => return scalarReading tag text isPlain
    | .sequence _ tag items =>
      return tagged tag (.list (← items.mapM fun item => expand anchors depth item))
    | .mapping _ tag entries =>
      return tagged tag (.mapping (← entries.mapM fun (key, value) =>
        return (← expand anchors depth key, ← expand anchors depth value)))

def Node.toReading (root : Node) : Option Reading :=
  ((expand root.allAnchored.reverse depthLimit root).run (100 * root.weight)).map (·.1)

def read? (text : String) : Option Reading := do
  (← Node.ofText? text).toReading

end DossierCompliance.Yaml
