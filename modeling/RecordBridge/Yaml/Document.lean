import RecordBridge.Yaml.Grammar
import RecordBridge.Yaml.Layout
import RecordBridge.Yaml.Word

/-
  Documents — the values of YAML texts.

  A document is a mapping; one without a node is an empty mapping. Keys are the
  texts of scalars, and of two entries with the same key the last one counts. A
  tag of the document's own makes a mapping of the tag's name to the value. How
  deep a document may be is limited, and how often references may be followed.
-/

namespace RecordBridge.Yaml

/-- Sequences and mappings may be nested this deep. -/
def maxDepth : Nat := 128

/-- The name of a tag of the document's own, which is text. -/
def localName? (tag : Bytes) : Option String :=
  match Utf8.decode tag with
  | ('!' :: name, []) => some (String.ofList name)
  | _ => none

/-- The value of a scalar. A tag of the document's own says nothing about it. -/
def scalarValue? (tag : Option Bytes) (text : String) (plain : Bool) : Option Json :=
  match tag.filter (localName? · |>.isNone) with
  | some tag => ofTaggedWord? tag text
  | none => some (if plain then ofWord text else .string text)

/-! ### Nodes -/

/-- What is computed while the number of references that may still be followed goes down. -/
abbrev Following := StateT Nat Option

/-- The node that a node is or refers to. -/
def follow (anchored : List (Nat × Node)) : Node → Following Node
  | .reference anchor => do
    match ← get with
    | 0 => failure
    | left + 1 =>
      set left
      (anchored.lookup anchor).elim failure pure
  | node => pure node

/-- The text of a key. -/
def keyText (anchored : List (Nat × Node)) (node : Node) : Following String := do
  match ← follow anchored node with
  | .scalar _ text _ => pure text
  | _ => failure

/-- The value of a node in which sequences and mappings may be nested `depth` deep. -/
def value (anchored : List (Nat × Node)) : Nat → Node → Following Json
  | depth, node => do
    let node ← follow anchored node
    let content ←
      match node, depth with
      | .scalar properties text plain, _ =>
        (scalarValue? properties.tag text plain).elim failure pure
      | .sequence _ items, depth + 1 => Json.array <$> items.mapM (value anchored depth)
      | .mapping _ entries, depth + 1 =>
        Json.object <$> entries.foldlM (fun members (key, node) => do
          let key ← keyText anchored key
          return insertEntry key (← value anchored depth node) members) []
      | _, _ => failure
    return match node.properties.tag.bind localName? with
      | some name => .object [(name, content)]
      | none => content

/-! ### Documents -/

/-- References in a document may be followed this often for each step in which it
is read. -/
def maxFollowed : Nat := 100

/-- The value of the node of a document, which is a mapping whatever its tag says. -/
def mappingValue? (node : Node) : Option Json :=
  match node with
  | .scalar _ "" true => some (.object [])
  | .mapping _ entries =>
    ((value node.anchored maxDepth (.mapping .none entries)).run
      (maxFollowed * node.allSteps)).map Prod.fst
  | _ => none

/-- Reads a document. -/
def parse? (text : String) : Option Json := do
  match ← document? (← tokens? text.toList) with
  | some node => mappingValue? node
  | none => return .object []

end RecordBridge.Yaml
