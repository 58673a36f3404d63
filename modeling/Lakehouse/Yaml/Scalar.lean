import Lakehouse.Text.Utf8
import Lakehouse.Yaml.Value

/-!
# Scalars

What the text of a scalar denotes. A quoted one is a text; a plain one is understood by its spelling,
in this order: null, a truth value, a whole number, a number in double precision, a text. A tag of the
core schema asks for one type and refuses every other spelling.

- `plain?`: a plain scalar by its spelling.
- `Tag`, `Tag.ofBytes?`: what a tag asks for.
- `Tag.scalar?`: a scalar under a tag.
-/

namespace Lakehouse

namespace Yaml

/-- The spellings of null. -/
def isNull (s : String) : Bool :=
  s == "null" || s == "Null" || s == "NULL" || s == "~"

/-- The spellings of the truth values. -/
def truth? (s : String) : Option Bool :=
  if s = "true" ∨ s = "True" ∨ s = "TRUE" then some true
  else if s = "false" ∨ s = "False" ∨ s = "FALSE" then some false
  else none

/-- A sign at the front. -/
def hasSign (cs : List Char) : Bool :=
  cs.head? == some '-' || cs.head? == some '+'

/-- Digits only, the first of several being zero: such a row is a code and not a number. -/
def isZeroPadded (cs : List Char) : Bool :=
  match if hasSign cs then cs.drop 1 else cs with
  | '0' :: d :: rest => (d :: rest).all Char.isDigit
  | _ => false

/-- Digits after the mark of their base, or decimal ones. A second sign is refused by every base. -/
def unsigned? (cs : List Char) : Option Nat :=
  let marked :=
    match cs with
    | '0' :: 'x' :: digits => Decimal.digitsValue? 16 digits
    | '0' :: 'o' :: digits => Decimal.digitsValue? 8 digits
    | '0' :: 'b' :: digits => Decimal.digitsValue? 2 digits
    | _ => none
  marked.or (if isZeroPadded cs then none else Decimal.digitsValue? 10 cs)

/-- A whole number of any size. -/
def integer? (cs : List Char) : Option Int :=
  match cs with
  | '-' :: rest => (unsigned? rest).map fun n => -(n : Int)
  | '+' :: rest => (unsigned? rest).map fun n => (n : Int)
  | _ => (unsigned? cs).map fun n => (n : Int)

/-- A number in double precision. A decimal too large for one is none. -/
def float? (cs : List Char) : Option Decimal.Binary64 :=
  let unplussed := if cs.head? == some '+' then cs.drop 1 else cs
  let among (words : List String) (cs : List Char) : Bool := words.contains (String.ofList cs)
  if among [".inf", ".Inf", ".INF"] unplussed then some (.infinite false)
  else if among ["-.inf", "-.Inf", "-.INF"] cs then some (.infinite true)
  else if among [".nan", ".NaN", ".NAN"] cs then some .nan
  else (Decimal.decimal? cs).filter Decimal.Binary64.isFinite

/-- The least and the greatest whole numbers that are read as such, of 128 bits. -/
def isWide (n : Int) : Bool :=
  Decimal.least128 ≤ n && n ≤ Decimal.greatestUnsigned128

/-- Whole numbers that a value can hold, of 64 bits. -/
def isNarrow (n : Int) : Bool :=
  Decimal.least64 ≤ n && n ≤ Decimal.greatestUnsigned64

/-- A plain scalar by its spelling. A whole number between the two ranges is refused, and one beyond
both is no longer read as whole. -/
def plain? (s : String) : Option YamlValue :=
  let cs := s.toList
  if s = "" ∨ isNull s then some .null
  else
    match truth? s, (integer? cs).filter isWide with
    | some b, _ => some (.bool b)
    | none, some n => if isNarrow n then some (.int n) else none
    | none, none =>
      match if isZeroPadded cs then none else float? cs with
      | some x => some (.float x)
      | none => some (.text s)

/-! ### Tags -/

/-- What a tag asks for. -/
inductive Tag where
  | null
  | bool
  | int
  | float
  /-- A name of the document's own, which stays with the value. -/
  | named (name : String)
  /-- Any other tag: a scalar is a text, and a collection is what it is without. -/
  | other
  deriving DecidableEq, Repr

/-- The bytes of a text. -/
def bytesOf (s : String) : List UInt8 :=
  s.toUTF8.data.toList

/-- What the tags of the core schema have in common. -/
def coreTags : List UInt8 :=
  bytesOf "tag:yaml.org,2002:"

/-- What the bytes of a tag ask for. A tag of the document's own that encodes no text asks for nothing. -/
def Tag.ofBytes? (bytes : List UInt8) : Option Tag :=
  match bytes with
  | [33] => some (.named "!")
  | 33 :: rest => (Text.ofBytes? rest).map fun name => .named (YamlValue.unmarked name)
  | _ =>
    if bytes = coreTags ++ bytesOf "null" then some .null
    else if bytes = coreTags ++ bytesOf "bool" then some .bool
    else if bytes = coreTags ++ bytesOf "int" then some .int
    else if bytes = coreTags ++ bytesOf "float" then some .float
    else some .other

/-- A scalar without a tag. -/
def untaggedScalar? (plain : Bool) (s : String) : Option YamlValue :=
  if plain then plain? s else some (.text s)

/-- A scalar under a tag; a misfit is refused. -/
def Tag.scalar? (plain : Bool) (s : String) : Tag → Option YamlValue
  | .null => if isNull s then some .null else none
  | .bool => (truth? s).map .bool
  | .int => ((integer? s.toList).filter isNarrow).map .int
  | .float => (float? s.toList).map .float
  | .named name => (untaggedScalar? plain s).map (.tagged name)
  | .other => some (.text s)

end Yaml

end Lakehouse
