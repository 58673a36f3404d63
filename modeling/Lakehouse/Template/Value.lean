import Lakehouse.Decimal.Layout
import Lakehouse.NameMap
import Lakehouse.Text.Quoted
import Lakehouse.Text.Utf8

/-!
# Template values

What a project's templates compute: the dynamic values in which a model states its configuration, and
in which templates see a resolved relation.

- `TemplateValue.member`: the attribute of a value; what is not there is undefined.
- `TemplateValue.text?`: the value as a text, if it is one.
- `TemplateValue.rendered`: the value as it appears in a rendered template, and `TemplateValue.debug`: as
  it appears inside a list or a map.
- `TemplateValue.toWord?`: the value as a whole number of 64 bits.
-/

namespace Lakehouse

/-- A template value. The entries of a map are in ascending order of their distinct names. -/
inductive TemplateValue where
  | undefined
  | null
  | bool (b : Bool)
  | int (n : Int)
  | float (x : Decimal.Binary64)
  | text (s : String)
  | bytes (bs : List UInt8)
  | list (items : List TemplateValue)
  | map (entries : List (String × TemplateValue))
  deriving Repr

namespace TemplateValue

/-- Neither undefined nor null. -/
def isDefined : TemplateValue → Bool
  | undefined | null => false
  | _ => true

/-- The entry of a map, and undefined for everything else. -/
def member (v : TemplateValue) (key : String) : TemplateValue :=
  match v with
  | map entries => (lookupName key entries).getD undefined
  | _ => undefined

/-- Texts, and bytes that encode one. -/
def text? : TemplateValue → Option String
  | text s => some s
  | bytes bs => Text.ofBytes? bs
  | _ => none

/-- Whole numbers of 64 bits: integers in that range, numbers in double precision that are whole, and
truth values as 0 and 1. -/
def toWord? : TemplateValue → Option Int
  | bool b => some (if b then 1 else 0)
  | int n => if Decimal.fits64 n then some n else none
  | float x => x.toWord?
  | _ => none

/-- Numbers in a rendered template never have a power of ten, and a tie between digits goes up. -/
def shownNumbers : Decimal.Layout := ⟨none, none, .up, "NaN", "inf"⟩

/-- Numbers inside a list or a map have a power of ten when they are large or tiny, and a tie between
digits goes up. -/
def listedNumbers : Decimal.Layout := ⟨some (-4), some 15, .up, "NaN", "inf"⟩

/-- One byte between single quotes: printable ASCII as it is, all else escaped. -/
def byteText (b : UInt8) : String :=
  let n := b.toNat
  if n = 9 then "\\t"
  else if n = 10 then "\\n"
  else if n = 13 then "\\r"
  else if n = 39 then "\\'"
  else if n = 92 then "\\\\"
  else if 0x20 ≤ n ∧ n ≤ 0x7E then (Char.ofNat n).toString
  else "\\x" ++ (if n < 16 then "0" else "") ++ Text.hexDigits n

/-- Bytes between single quotes. -/
def bytesText (bs : List UInt8) : String :=
  "b'" ++ String.join (bs.map byteText) ++ "'"

mutual

/-- A value inside a list or a map. -/
def debug : TemplateValue → String
  | undefined => "undefined"
  | null => "None"
  | bool b => if b then "True" else "False"
  | int n => toString n
  | float x => listedNumbers.text x
  | text s => Text.quoted s
  | bytes bs => bytesText bs
  | list items => "[" ++ debugItems items ++ "]"
  | map entries => "\x7b" ++ debugEntries entries ++ "\x7d"

/-- Items with commas between them. -/
def debugItems : List TemplateValue → String
  | [] => ""
  | [v] => debug v
  | v :: w :: rest => debug v ++ ", " ++ debugItems (w :: rest)

/-- Entries with commas between them. -/
def debugEntries : List (String × TemplateValue) → String
  | [] => ""
  | [(k, v)] => Text.quoted k ++ ": " ++ debug v
  | (k, v) :: e :: rest => Text.quoted k ++ ": " ++ debug v ++ ", " ++ debugEntries (e :: rest)

end

/-- A value in a rendered template. -/
def rendered : TemplateValue → String
  | undefined => ""
  | float x => shownNumbers.text x
  | text s => s
  | bytes bs => Text.ofBytesLossy bs
  | v => debug v

end TemplateValue

end Lakehouse
