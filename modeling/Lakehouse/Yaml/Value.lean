import Lakehouse.Decimal.Layout

/-!
# YAML values

What a YAML document denotes, once its anchors have been followed and its plain scalars understood.

- `YamlValue`: the values. Any value can be a key, and the entries of a map keep their order.
- `YamlValue.same`: equality of keys, which looks past the order of entries and past the sign of zero.
- `YamlValue.untagged`: a value without the tags around it.
- `YamlValue.numbers`: how a number in double precision is written.
-/

namespace Lakehouse

/-- A YAML value. The keys of a map are distinct. -/
inductive YamlValue where
  | null
  | bool (b : Bool)
  | int (n : Int)
  | float (x : Decimal.Binary64)
  | text (s : String)
  | list (items : List YamlValue)
  | map (entries : List (YamlValue × YamlValue))
  /-- A value under a tag of the document's own; the tag is named without its leading mark. -/
  | tagged (tag : String) (value : YamlValue)
  deriving Repr

namespace YamlValue

/-- The name of a tag without a leading mark, unless it is the mark alone. -/
def unmarked (tag : String) : String :=
  match tag.toList with
  | '!' :: c :: rest => String.ofList (c :: rest)
  | _ => tag

/-- Without the tags around the value. -/
def untagged : YamlValue → YamlValue
  | tagged _ v => untagged v
  | v => v

/-- A power of ten is written from `10 ^ 16` on and below `10 ^ -5`, and a tie goes to the even digits. -/
def numbers : Decimal.Layout := ⟨some (-5), some 15, .toEven, ".nan", ".inf"⟩

mutual

/-- Equality of keys. A whole number never equals one in double precision. -/
def same : YamlValue → YamlValue → Bool
  | null, null => true
  | bool a, bool b => a == b
  | int a, int b => a == b
  | float a, float b => a.sameNumber b
  | text a, text b => a == b
  | list as, list bs => sameItems as bs
  | map as, map bs => as.length == bs.length && sameEntries as bs
  | tagged t a, tagged u b => t == u && same a b
  | _, _ => false

/-- Equality item by item. -/
def sameItems : List YamlValue → List YamlValue → Bool
  | [], [] => true
  | a :: as, b :: bs => same a b && sameItems as bs
  | _, _ => false

/-- Each entry on the left has an equal one on the right. -/
def sameEntries : List (YamlValue × YamlValue) → List (YamlValue × YamlValue) → Bool
  | [], _ => true
  | (k, v) :: rest, bs => bs.any (fun e => same k e.1 && same v e.2) && sameEntries rest bs

end

/-- The entries have a key equal to the given one. -/
def hasKey (entries : List (YamlValue × YamlValue)) (key : YamlValue) : Bool :=
  entries.any fun e => e.1.same key

end YamlValue

end Lakehouse
