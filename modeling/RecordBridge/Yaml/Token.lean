import RecordBridge.Text.Utf8

/-
  Tokens — what a document is made of.

  Indentation shows in tokens of its own: a sequence or a mapping in block style
  stands between a start and an end. The sign of a key stands before every key,
  also where nothing is written for it. The name of a tag is made of bytes, which
  need not be text.
-/

namespace RecordBridge.Yaml

/-- A token. -/
inductive Token
  | version (major minor : Nat)
  /-- A handle for tags, and what it stands for. -/
  | handle (name : String) (start : Bytes)
  | documentStart
  | documentEnd
  | blockSequenceStart
  | blockMappingStart
  | blockEnd
  | flowSequenceStart
  | flowSequenceEnd
  | flowMappingStart
  | flowMappingEnd
  | blockEntry
  | flowEntry
  | key
  | value
  | reference (name : String)
  | anchor (name : String)
  | tag (handle : String) (suffix : Bytes)
  /-- The text of a scalar, and whether it is written without signs around it. -/
  | scalar (text : String) (plain : Bool)
  deriving DecidableEq, Repr

end RecordBridge.Yaml
