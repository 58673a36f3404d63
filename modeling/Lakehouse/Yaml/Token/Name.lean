import Lakehouse.Decimal.Digits
import Lakehouse.Yaml.Token
import Lakehouse.Yaml.Token.Cursor

/-!
# Names, tags and directives

The tokens that say something about a node or about a document rather than being a part of it.

- `Yaml.name?`: the name of an anchor, or of the anchor that an alias means.
- `Yaml.tag?`: a tag, shortened by a handle or written out.
- `Yaml.directive?`: the version of the language, or a handle for tags.
-/

namespace Lakehouse

namespace Yaml

/-- What may follow a name directly. -/
def nameEnds : List Char :=
  "?:,]\x7d%@\x60".toList

/-- A name after its mark. -/
def name? (c : Cursor) : Option (String × Cursor) :=
  let name := (c.skip 1).taken isNameChar
  let c := c.skip (1 + name.length)
  let ends := endsWord c.rest || (c.rest.head?.map nameEnds.contains).getD false
  if name.isEmpty || !ends then none else some (String.ofList name, c)

/-! ### Tags -/

/-- The characters of a tag. A tag written out may hold the marks of flow sequences too. -/
def isTagChar (full : Bool) (c : Char) : Bool :=
  isNameChar c || ";/?:@&=+$.%!~*'()".toList.contains c || (full && ",[]".toList.contains c)

/-- A byte written as a percent sign and two hexadecimal digits. -/
def percentByte? (c : Cursor) : Option (Nat × Cursor) :=
  match c.rest with
  | '%' :: a :: b :: _ => (Decimal.digitsValue? 16 [a, b]).map fun n => (n, c.skip 3)
  | _ => none

/-- How many bytes follow a first byte. -/
def followers? (lead : Nat) : Option Nat :=
  if lead < 0x80 then some 0
  else if 0xC0 ≤ lead ∧ lead < 0xE0 then some 1
  else if 0xE0 ≤ lead ∧ lead < 0xF0 then some 2
  else if 0xF0 ≤ lead ∧ lead < 0xF8 then some 3
  else none

/-- Written bytes that go on with a character. -/
def followingBytes? : Nat → Cursor → Option (List UInt8 × Cursor)
  | 0, c => some ([], c)
  | n + 1, c =>
    match percentByte? c with
    | some (b, c) =>
      if 0x80 ≤ b ∧ b < 0xC0 then
        (followingBytes? n c).map fun r => (UInt8.ofNat b :: r.1, r.2)
      else none
    | none => none

/-- The bytes of one character of a tag. -/
def tagCharBytes? (c : Cursor) : Option (List UInt8 × Cursor) :=
  match c.rest with
  | [] => none
  | '%' :: _ =>
    match percentByte? c with
    | none => none
    | some (lead, c) =>
      match followers? lead with
      | none => none
      | some n => (followingBytes? n c).map fun r => (UInt8.ofNat lead :: r.1, r.2)
  | d :: _ => some ([UInt8.ofNat d.toNat], c.next)

/-- The bytes of a tag as far as it goes; those read so far are given last first. -/
def tagBytesFrom? (full : Bool) :
    (fuel : Nat) → List UInt8 → Cursor → Option (List UInt8 × Cursor)
  | 0, _, _ => none
  | fuel + 1, read, c =>
    if (c.rest.head?.map (isTagChar full)).getD false then
      match tagCharBytes? c with
      | some (bs, c) => tagBytesFrom? full fuel (bs.reverse ++ read) c
      | none => none
    else some (read.reverse, c)

/-- The bytes of a tag as far as it goes, if it goes anywhere. -/
def tagBytes? (full : Bool) (c : Cursor) : Option (List UInt8 × Cursor) :=
  if (c.rest.head?.map (isTagChar full)).getD false then
    tagBytesFrom? full (c.rest.length + 1) [] c
  else none

/-- The handle at the front of a tag: the text up to a second mark, if there is one. -/
def handle? (c : Cursor) : Option (String × Cursor) :=
  let name := (c.skip 1).taken isNameChar
  let c := c.skip (1 + name.length)
  if c.rest.head? = some '!' then some ("!" ++ String.ofList name ++ "!", c.skip 1) else none

/-- A byte of zero ends a tag early. -/
def upToZero (bytes : List UInt8) : List UInt8 :=
  bytes.takeWhile (· != 0)

/-- The handle of a tag and the bytes after it. A mark that stands alone is a tag written out. -/
def tagParts? (c : Cursor) : Option (String × List UInt8 × Cursor) :=
  match c.rest with
  | '!' :: '<' :: _ =>
    match tagBytes? true (c.skip 2) with
    | some (bytes, c) =>
      if c.rest.head? = some '>' then some ("", upToZero bytes, c.skip 1) else none
    | none => none
  | _ =>
    match handle? c with
    | some (handle, c) => (tagBytes? false c).map fun r => (handle, upToZero r.1, r.2)
    | none =>
      (tagBytesFrom? false (c.rest.length + 1) [] (c.skip 1)).map fun r =>
        match upToZero r.1 with
        | [] => ("", [33], r.2)
        | bytes => ("!", bytes, r.2)

/-- A tag, from its mark on. Inside a flow collection a comma may follow it directly. -/
def tag? (flow : Bool) (c : Cursor) : Option (Token × Cursor) :=
  match tagParts? c with
  | some (handle, bytes, c) =>
    if endsWord c.rest || (flow && c.rest.head? == some ',') then some (.tag handle bytes, c) else none
  | none => none

/-! ### Directives -/

/-- A part of a version, of nine digits at most. -/
def versionPart? (c : Cursor) : Option (Nat × Cursor) :=
  let digits := c.taken Char.isDigit
  if 9 < digits.length then none
  else (Decimal.digitsValue? 10 digits).map fun n => (n, c.skip digits.length)

/-- The two parts of a version. -/
def version? (c : Cursor) : Option (Token × Cursor) :=
  match versionPart? c with
  | some (major, c) =>
    if c.rest.head? = some '.' then
      (versionPart? (c.skip 1)).map fun r => (.version major r.1, r.2)
    else none
  | none => none

/-- A handle and the beginning of the tags that it stands for. -/
def tagHandle? (c : Cursor) : Option (Token × Cursor) :=
  let declared : Option (String × Cursor) :=
    match c.rest with
    | '!' :: rest =>
      (handle? c).or (if (rest.head?.map isNameChar).getD false then none else some ("!", c.skip 1))
    | _ => none
  match declared with
  | none => none
  | some (handle, c) =>
    if (c.rest.head?.map isSpacing).getD false then
      match tagBytes? true (c.skipWhile isSpacing) with
      | some (bytes, c) => if endsWord c.rest then some (.tagHandle handle (upToZero bytes), c) else none
      | none => none
    else none

/-- A directive, from its mark on, with the rest of its line. -/
def directive? (c : Cursor) : Option (Token × Cursor) :=
  let name := (c.skip 1).taken isNameChar
  let c := c.skip (1 + name.length)
  let argument := c.skipWhile isSpacing
  let read :=
    if !endsWord c.rest then none
    else if name = "YAML".toList then version? argument
    else if name = "TAG".toList then tagHandle? argument
    else none
  match read with
  | some (t, c) => c.nextLine?.map fun c => (t, c)
  | none => none

end Yaml

end Lakehouse
