/-!
# YAML tokens

The tokens of a YAML text. Indentation shows as tokens too: a block collection is opened where its
first entry stands and closed where a line begins further left.

- `Yaml.Token`: the tokens.
-/

namespace Lakehouse

namespace Yaml

/-- A token. -/
inductive Token where
  /-- The version of the language. -/
  | version (major minor : Nat)
  /-- A handle for tags, and the bytes that it stands for. -/
  | tagHandle (handle : String) (bytes : List UInt8)
  | documentStart
  | documentEnd
  | blockSequenceStart
  | blockMappingStart
  /-- The end of either kind of block collection. -/
  | blockEnd
  | flowSequenceStart
  | flowSequenceEnd
  | flowMappingStart
  | flowMappingEnd
  /-- The dash before an entry of a block sequence. -/
  | blockEntry
  /-- The comma after an entry of a flow collection. -/
  | flowEntry
  /-- What follows is a key. -/
  | key
  /-- What follows is the value of a key. -/
  | value
  | alias (name : String)
  | anchor (name : String)
  /-- A tag: its handle, empty for a tag written out, and the bytes after the handle. -/
  | tag (handle : String) (bytes : List UInt8)
  | scalar (plain : Bool) (text : String)
  deriving DecidableEq, Repr

end Yaml

end Lakehouse
