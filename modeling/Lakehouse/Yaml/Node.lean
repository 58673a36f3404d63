import Lakehouse.Yaml.Scalar
import Lakehouse.Yaml.Token.Lexer

/-!
# YAML nodes

The tree that the tokens of one document form, before its anchors are followed. What is left out, such
as the value of a key, is an empty plain scalar.

- `Yaml.Node`: the nodes; what an alias refers to is a parameter.
- `Yaml.Node.ofTokens?`: the node of the only document in a row of tokens.
-/

namespace Lakehouse

namespace Yaml

/-- The name by which aliases refer to a node, and what its tag asks for. -/
structure Properties where
  anchor : Option String := none
  tag : Option Tag := none
  deriving Repr

/-- A node. -/
inductive Node (ρ : Type) where
  | alias (target : ρ)
  | scalar (properties : Properties) (plain : Bool) (text : String)
  | sequence (properties : Properties) (items : List (Node ρ))
  | mapping (properties : Properties) (entries : List (Node ρ × Node ρ))

/-- The node that stands where nothing is written. -/
def Node.empty {ρ : Type} : Node ρ :=
  .scalar {} true ""

/-! ### Properties -/

/-- What the handles of tags stand for. -/
abbrev Handles := List (String × List UInt8)

/-- The handles that need no directive. -/
def standardHandles : Handles :=
  [("!", [33]), ("!!", coreTags)]

/-- Properties as written: an anchor and the bytes of a tag. -/
structure Written where
  anchor : Option String := none
  tag : Option (List UInt8) := none

namespace Written

/-- Something is written. -/
def any (w : Written) : Bool :=
  w.anchor.isSome || w.tag.isSome

/-- What is written, as the properties of a node. -/
def properties (w : Written) : Properties :=
  { anchor := w.anchor, tag := w.tag.bind Tag.ofBytes? }

/-- A tag with its handle replaced; an unknown handle is refused. -/
def tagBytes? (handles : Handles) (handle : String) (bytes : List UInt8) : Option (List UInt8) :=
  if handle = "" then some bytes else (handles.lookup handle).map fun start => start ++ bytes

/-- The properties in front of a node, an anchor and a tag in either order, and what follows them. -/
def ofTokens? (handles : Handles) (ts : List Token) : Option (Written × List Token) :=
  match ts with
  | .anchor a :: .tag h bs :: rest =>
    (tagBytes? handles h bs).map fun t => ({ anchor := some a, tag := some t }, rest)
  | .tag h bs :: .anchor a :: rest =>
    (tagBytes? handles h bs).map fun t => ({ anchor := some a, tag := some t }, rest)
  | .anchor a :: rest => some ({ anchor := some a }, rest)
  | .tag h bs :: rest => (tagBytes? handles h bs).map fun t => ({ tag := some t }, rest)
  | _ => some ({}, ts)

end Written

/-! ### Nodes -/

namespace Node

/-- Where a node is read: what collections it may be, and which tokens mean that it is left out. -/
structure Place where
  /-- A block collection is possible. -/
  block : Bool
  /-- A block sequence need not be indented. -/
  unindented : Bool
  isLeftOut : Token → Bool

/-- A node after the dash of a block sequence. -/
def Place.item : Place where
  block := true
  unindented := false
  isLeftOut t := t == .blockEntry || t == .blockEnd

/-- A node after the dash of a sequence that is not indented. -/
def Place.unindentedItem : Place where
  block := true
  unindented := false
  isLeftOut t := t == .blockEntry || t == .key || t == .value || t == .blockEnd

/-- A key or a value of a block mapping. -/
def Place.entry : Place where
  block := true
  unindented := true
  isLeftOut t := t == .key || t == .value || t == .blockEnd

/-- A node in a flow collection that ends with a given token. -/
def Place.flow (ending : Token) : Place where
  block := false
  unindented := false
  isLeftOut t := t == .flowEntry || t == ending

/-- A key in a flow mapping. -/
def Place.flowKey : Place :=
  { Place.flow .flowMappingEnd with
    isLeftOut := fun t => t == .value || t == .flowEntry || t == .flowMappingEnd }

/-- The next token passes a test. -/
def next (test : Token → Bool) (ts : List Token) : Bool :=
  (ts.head?.map test).getD false

/-- Past the comma in front of an entry that is not the first. -/
def pastComma? (first : Bool) (ts : List Token) : Option (List Token) :=
  if first then some ts
  else
    match ts with
    | .flowEntry :: rest => some rest
    | _ => none

mutual

/-- A node that must be there, and what follows it. -/
def read? (handles : Handles) (fuel : Nat) (p : Place) (ts : List Token) :
    Option (Node String × List Token) :=
  match fuel, ts with
  | 0, _ => none
  | _, .alias name :: rest => some (.alias name, rest)
  | fuel + 1, _ =>
    match Written.ofTokens? handles ts with
    | none => none
    | some (w, ts) =>
      let leftOut : Option (Node String × List Token) :=
        if w.any then some (.scalar w.properties true "", ts) else none
      match ts with
      | .scalar plain text :: rest => some (.scalar w.properties plain text, rest)
      | .flowSequenceStart :: rest =>
        (flowItems? handles fuel true [] rest).map fun r => (.sequence w.properties r.1, r.2)
      | .flowMappingStart :: rest =>
        (flowEntries? handles fuel true [] rest).map fun r => (.mapping w.properties r.1, r.2)
      | .blockEntry :: _ =>
        if p.unindented then
          (unindentedItems? handles fuel [] ts).map fun r => (.sequence w.properties r.1, r.2)
        else leftOut
      | .blockSequenceStart :: rest =>
        if p.block then
          (blockItems? handles fuel [] rest).map fun r => (.sequence w.properties r.1, r.2)
        else leftOut
      | .blockMappingStart :: rest =>
        if p.block then
          (blockEntries? handles fuel [] rest).map fun r => (.mapping w.properties r.1, r.2)
        else leftOut
      | _ => leftOut

/-- A node that may be left out, and what follows it. -/
def readOrEmpty? (handles : Handles) (fuel : Nat) (p : Place) (ts : List Token) :
    Option (Node String × List Token) :=
  match fuel with
  | 0 => none
  | fuel + 1 => if next p.isLeftOut ts then some (.empty, ts) else read? handles fuel p ts

/-- A value and the colon in front of it, either of which may be left out. -/
def valueOrEmpty? (handles : Handles) (fuel : Nat) (p : Place) (ts : List Token) :
    Option (Node String × List Token) :=
  match fuel, ts with
  | 0, _ => none
  | fuel + 1, .value :: rest => readOrEmpty? handles fuel p rest
  | _, _ => some (.empty, ts)

/-- The items of a block sequence up to its end; those read so far are given last first. -/
def blockItems? (handles : Handles) (fuel : Nat) (read : List (Node String)) (ts : List Token) :
    Option (List (Node String) × List Token) :=
  match fuel, ts with
  | fuel + 1, .blockEntry :: rest =>
    match readOrEmpty? handles fuel .item rest with
    | some (node, rest) => blockItems? handles fuel (node :: read) rest
    | none => none
  | _, .blockEnd :: rest => some (read.reverse, rest)
  | _, _ => none

/-- The items of a sequence that is not indented; it ends where no further dash follows. -/
def unindentedItems? (handles : Handles) (fuel : Nat) (read : List (Node String))
    (ts : List Token) : Option (List (Node String) × List Token) :=
  match fuel, ts with
  | 0, _ => none
  | fuel + 1, .blockEntry :: rest =>
    match readOrEmpty? handles fuel .unindentedItem rest with
    | some (node, rest) => unindentedItems? handles fuel (node :: read) rest
    | none => none
  | _, _ => some (read.reverse, ts)

/-- The entries of a block mapping up to its end. -/
def blockEntries? (handles : Handles) (fuel : Nat) (read : List (Node String × Node String))
    (ts : List Token) : Option (List (Node String × Node String) × List Token) :=
  match fuel, ts with
  | fuel + 1, .key :: rest =>
    match readOrEmpty? handles fuel .entry rest with
    | none => none
    | some (key, rest) =>
      match valueOrEmpty? handles fuel .entry rest with
      | some (value, rest) => blockEntries? handles fuel ((key, value) :: read) rest
      | none => none
  | _, .blockEnd :: rest => some (read.reverse, rest)
  | _, _ => none

/-- The items of a flow sequence up to its end. An item with the mark of a key is a mapping with one
entry; where that key is left out, the token that shows this is left out with it. -/
def flowItems? (handles : Handles) (fuel : Nat) (first : Bool) (read : List (Node String))
    (ts : List Token) : Option (List (Node String) × List Token) :=
  match fuel, ts with
  | 0, _ => none
  | _, .flowSequenceEnd :: rest => some (read.reverse, rest)
  | fuel + 1, _ =>
    match pastComma? first ts with
    | none => none
    | some (.flowSequenceEnd :: rest) => some (read.reverse, rest)
    | some (.key :: rest) =>
      let isLeftOut (t : Token) : Bool := t == .value || t == .flowEntry || t == .flowSequenceEnd
      let key :=
        if next isLeftOut rest then some (Node.empty, rest.drop 1)
        else read? handles fuel (.flow .flowSequenceEnd) rest
      match key with
      | none => none
      | some (key, rest) =>
        match valueOrEmpty? handles fuel (.flow .flowSequenceEnd) rest with
        | some (value, rest) => flowItems? handles fuel false (.mapping {} [(key, value)] :: read) rest
        | none => none
    | some rest =>
      match read? handles fuel (.flow .flowSequenceEnd) rest with
      | some (node, rest) => flowItems? handles fuel false (node :: read) rest
      | none => none

/-- The entries of a flow mapping up to its end. A node without the mark of a key is a key alone. -/
def flowEntries? (handles : Handles) (fuel : Nat) (first : Bool)
    (read : List (Node String × Node String)) (ts : List Token) :
    Option (List (Node String × Node String) × List Token) :=
  match fuel, ts with
  | 0, _ => none
  | _, .flowMappingEnd :: rest => some (read.reverse, rest)
  | fuel + 1, _ =>
    match pastComma? first ts with
    | none => none
    | some (.flowMappingEnd :: rest) => some (read.reverse, rest)
    | some (.key :: rest) =>
      match readOrEmpty? handles fuel .flowKey rest with
      | none => none
      | some (key, rest) =>
        match valueOrEmpty? handles fuel (.flow .flowMappingEnd) rest with
        | some (value, rest) => flowEntries? handles fuel false ((key, value) :: read) rest
        | none => none
    | some rest =>
      match read? handles fuel (.flow .flowMappingEnd) rest with
      | some (key, rest) => flowEntries? handles fuel false ((key, .empty) :: read) rest
      | none => none

end

/-! ### Documents -/

/-- Directives: one version at most, which must be known, and each handle once. -/
def directives? (versioned : Bool) (handles : Handles) (ts : List Token) :
    Option (Handles × List Token) :=
  match ts with
  | .version major minor :: rest =>
    if versioned || major != 1 || (minor != 1 && minor != 2) then none
    else directives? true handles rest
  | .tagHandle handle bytes :: rest =>
    if (handles.lookup handle).isSome then none
    else directives? versioned ((handle, bytes) :: handles) rest
  | _ => some (handles, ts)

/-- What follows the mark of a document's start when nothing is in the document. -/
def isBareEnd (t : Token) : Bool :=
  match t with
  | .version .. | .tagHandle .. | .documentStart | .documentEnd => true
  | _ => false

/-- The node of the first document, and what follows it. Without a mark a document has a node. -/
def first? (ts : List Token) : Option (Node String × List Token) :=
  let fuel := 4 * ts.length + 4
  let place : Place := { block := true, unindented := false, isLeftOut := isBareEnd }
  match directives? false [] ts with
  | some (handles, .documentStart :: rest) =>
    if rest.isEmpty then some (.empty, [])
    else readOrEmpty? (handles ++ standardHandles) fuel place rest
  | some (_, rest) =>
    if rest.isEmpty ∧ ts.isEmpty then some (.empty, [])
    else if rest.length < ts.length then none
    else read? standardHandles fuel place ts
  | none => none

/-- The node of the only document in a row of tokens; marks of a document's end may follow it. -/
def ofTokens? (ts : List Token) : Option (Node String) :=
  match first? ts with
  | some (node, rest) => if rest.all (· == .documentEnd) then some node else none
  | none => none

end Node

end Yaml

end Lakehouse
