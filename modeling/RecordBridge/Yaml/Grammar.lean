import RecordBridge.Assoc
import RecordBridge.Yaml.Node

/-
  Grammar — from the tokens of a document to its node.

  Where a node may be left out, the token that follows tells; it is then an empty
  scalar. A sequence that is the value of a key may stand in the same column as
  the key, and so has no start and no end of its own. Each function takes tokens
  from the front, so the number of tokens bounds the depth of the calls.
-/

namespace RecordBridge.Yaml

/-! ### Handles -/

/-- The handles that every document has. -/
def commonHandles : List (String × Bytes) :=
  [("!", Utf8.encode "!"), ("!!", Utf8.encode "tag:yaml.org,2002:")]

/-- Reads directives: at most one version, which must be known, and handles that are all
different. -/
def directives? (versioned : Bool) (handles : List (String × Bytes)) :
    List Token → Option (List (String × Bytes) × List Token)
  | .version major minor :: rest =>
    if versioned ∨ major ≠ 1 ∨ (minor ≠ 1 ∧ minor ≠ 2) then none
    else directives? true handles rest
  | .handle name start :: rest =>
    if (lookupEntry name handles).isSome then none
    else directives? versioned (handles ++ [(name, start)]) rest
  | tokens => some (handles, tokens)

/-! ### Readings -/

/-- A document of which some tokens have been read. -/
structure Reading where
  handles : List (String × Bytes)
  /-- The names of anchors so far, with their numbers. -/
  anchors : List (String × Nat)
  tokens : List Token

namespace Reading

/-- Whether one of `signs` comes next. -/
def isAt (s : Reading) (signs : List Token) : Bool := s.tokens.head?.any signs.contains

/-- The reading behind the next token. -/
def skip (s : Reading) : Reading := { s with tokens := s.tokens.drop 1 }

/-- The anchor that may come next. It gets the number of names so far, also if its name has
one already. -/
def anchor (s : Reading) : Option Nat × Reading :=
  match s.tokens with
  | .anchor name :: rest =>
    let n := s.anchors.length
    (some n, { s with anchors := insertEntry name n s.anchors, tokens := rest })
  | _ => (none, s)

/-- The full name of a tag, whose handle must be known. -/
def tagName? (s : Reading) (handle : String) (suffix : Bytes) : Option Bytes :=
  if handle.isEmpty then some suffix
  else (lookupEntry handle (s.handles ++ commonHandles)).map (· ++ suffix)

/-- The tag that may come next. -/
def tag? (s : Reading) : Option (Option Bytes × Reading) :=
  match s.tokens with
  | .tag handle suffix :: _ => (s.tagName? handle suffix).map fun name => (some name, s.skip)
  | _ => some (none, s)

/-- The anchor and the tag that may come next, in any order. -/
def properties? (s : Reading) : Option (Properties × Reading) := do
  let (first, s) := s.anchor
  let (tag, s) ← s.tag?
  let (anchor, s) := if first.isSome then (first, s) else s.anchor
  return (⟨anchor, tag⟩, s)

/-- The comma between nodes in flow style. -/
def comma? (s : Reading) : Option Reading := if s.isAt [.flowEntry] then some s.skip else none

/-- The node that comes next, unless one of `signs` shows that it is left out. -/
def nodeUnless? (signs : List Token) (read : Reading → Option (Node × Reading))
    (s : Reading) : Option (Node × Reading) :=
  if s.isAt signs then some (.empty, s) else read s

/-- The value that comes next behind its sign. Both may be left out. -/
def valueUnless? (signs : List Token) (read : Reading → Option (Node × Reading))
    (s : Reading) : Option (Node × Reading) :=
  if s.isAt [.value] then s.skip.nodeUnless? signs read else some (.empty, s)

/-- The mapping of a single entry that is an item of a sequence in flow style, behind the sign
of its key. A sign that shows that the key is left out is passed. -/
def pair? (read : Reading → Option (Node × Reading)) (s : Reading) :
    Option (Node × Reading) := do
  let (key, s) ←
    if s.isAt [.value, .flowEntry, .flowSequenceEnd] then some (.empty, s.skip) else read s
  let (value, s) ← s.valueUnless? [.flowEntry, .flowSequenceEnd] read
  return (.mapping .none [(key, value)], s)

/-- The entry of a mapping in flow style. Without the sign of a key it has no value. -/
def flowEntry? (read : Reading → Option (Node × Reading)) (s : Reading) :
    Option ((Node × Node) × Reading) := do
  if s.isAt [.key] then
    let (key, s) ← s.skip.nodeUnless? [.value, .flowEntry, .flowMappingEnd] read
    let (value, s) ← s.valueUnless? [.flowEntry, .flowMappingEnd] read
    return ((key, value), s)
  else
    let (key, s) ← read s
    return ((key, .empty), s)

end Reading

/-! ### Nodes -/

/-- Where a node stands. -/
inductive Spot
  | flow
  | block
  /-- As the key or the value of an entry in block style. -/
  | entry
  deriving DecidableEq, Repr

mutual

/-- The node that comes next. -/
def node? : Nat → Spot → Reading → Option (Node × Reading)
  | 0, _, _ => none
  | fuel + 1, spot, s =>
    match s.tokens with
    | .reference name :: _ => (lookupEntry name s.anchors).map fun n => (.reference n, s.skip)
    | _ => do
      let (properties, s) ← s.properties?
      match s.tokens.head?, spot with
      | some (.scalar text plain), _ => return (.scalar properties text plain, s.skip)
      | some .flowSequenceStart, _ =>
        let (items, s) ← flowItems? fuel true s.skip
        return (.sequence properties items, s)
      | some .flowMappingStart, _ =>
        let (entries, s) ← flowEntries? fuel true s.skip
        return (.mapping properties entries, s)
      | some .blockSequenceStart, .block | some .blockSequenceStart, .entry =>
        let (items, s) ← blockItems? fuel false s.skip
        return (.sequence properties items, s)
      | some .blockMappingStart, .block | some .blockMappingStart, .entry =>
        let (entries, s) ← blockEntries? fuel s.skip
        return (.mapping properties entries, s)
      | some .blockEntry, .entry =>
        let (items, s) ← blockItems? fuel true s
        return (.sequence properties items, s)
      | _, _ =>
        if properties = .none then none else return (.scalar properties "" true, s)

/-- The items of a sequence in block style. If it is `bare`, without a start, it ends where no
other item follows. -/
def blockItems? : Nat → Bool → Reading → Option (List Node × Reading)
  | 0, _, _ => none
  | fuel + 1, bare, s =>
    if s.isAt [.blockEntry] then do
      let ends := if bare then [.blockEntry, .key, .value, .blockEnd] else [.blockEntry, .blockEnd]
      let (item, s) ← s.skip.nodeUnless? ends (node? fuel .block)
      let (items, s) ← blockItems? fuel bare s
      return (item :: items, s)
    else if bare then some ([], s)
    else if s.isAt [.blockEnd] then some ([], s.skip)
    else none

/-- The entries of a mapping in block style. -/
def blockEntries? : Nat → Reading → Option (List (Node × Node) × Reading)
  | 0, _ => none
  | fuel + 1, s =>
    if s.isAt [.key] then do
      let (key, s) ← s.skip.nodeUnless? [.key, .value, .blockEnd] (node? fuel .entry)
      let (value, s) ← s.valueUnless? [.key, .value, .blockEnd] (node? fuel .entry)
      let (entries, s) ← blockEntries? fuel s
      return ((key, value) :: entries, s)
    else if s.isAt [.blockEnd] then some ([], s.skip)
    else none

/-- The items of a sequence in flow style. A comma may stand behind the last one. -/
def flowItems? : Nat → Bool → Reading → Option (List Node × Reading)
  | 0, _, _ => none
  | fuel + 1, first, s =>
    if s.isAt [.flowSequenceEnd] then some ([], s.skip)
    else do
      let s ← if first then some s else s.comma?
      if s.isAt [.flowSequenceEnd] then return ([], s.skip)
      else
        let (item, s) ←
          if s.isAt [.key] then s.skip.pair? (node? fuel .flow) else node? fuel .flow s
        let (items, s) ← flowItems? fuel false s
        return (item :: items, s)

/-- The entries of a mapping in flow style. A comma may stand behind the last one. -/
def flowEntries? : Nat → Bool → Reading → Option (List (Node × Node) × Reading)
  | 0, _, _ => none
  | fuel + 1, first, s =>
    if s.isAt [.flowMappingEnd] then some ([], s.skip)
    else do
      let s ← if first then some s else s.comma?
      if s.isAt [.flowMappingEnd] then return ([], s.skip)
      else
        let (entry, s) ← s.flowEntry? (node? fuel .flow)
        let (entries, s) ← flowEntries? fuel false s
        return (entry :: entries, s)

end

/-! ### Documents -/

/-- Whether a token cannot stand inside of a document. -/
def Token.isOutside : Token → Bool
  | .version .. | .handle .. | .documentStart | .documentEnd => true
  | _ => false

/-- The node of a document behind its directives and its start. -/
def content? (handles : List (String × Bytes)) (tokens : List Token) :
    Option (Node × Reading) :=
  let s : Reading := ⟨handles, [], tokens⟩
  if tokens.head?.all Token.isOutside then some (.empty, s)
  else node? (4 * tokens.length + 4) .block s

/-- The node of the only document, if there is one. With directives its start must be
written. -/
def document? (tokens : List Token) : Option (Option Node) := do
  if tokens.isEmpty then return none
  else
    let (handles, rest) ← directives? false [] tokens
    let (node, s) ←
      match rest with
      | .documentStart :: rest => content? handles rest
      | _ =>
        if rest.length = tokens.length ∧ !tokens.head?.any Token.isOutside then
          content? handles tokens
        else none
    if s.tokens.all (· = .documentEnd) then return some node else none

end RecordBridge.Yaml
