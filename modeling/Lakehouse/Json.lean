import Lakehouse.Decimal.Layout
import Lakehouse.NameMap

/-!
# JSON

JSON values, a strict reader and a writer. Whole numbers stay whole; a number with a point or a power
of ten is one in double precision.

- `Json.read?`: the value of a text, if the text is exactly one value. Half of a surrogate pair, a
  number out of range and too many brackets within one another are refused.
- `Json.text`: a value as a text on one line.
-/

namespace Lakehouse

/-- A JSON value. The members of an object are in ascending order of their distinct names. -/
inductive Json where
  | null
  | bool (b : Bool)
  | int (n : Int)
  | number (x : Decimal.Binary64)
  | string (s : String)
  | array (items : List Json)
  | object (members : List (String × Json))
  deriving Repr

namespace Json

/-- How many brackets may stand within one another. -/
def nestingLimit : Nat := 127

/-- Between tokens these four characters may stand. -/
def isSpace (c : Char) : Bool :=
  c == ' ' || c == '\n' || c == '\t' || c == '\r'

/-- Without the leading space. -/
def skipSpace (cs : List Char) : List Char :=
  cs.dropWhile isSpace

/-- Four hexadecimal digits. -/
def hexUnit? (cs : List Char) : Option (Nat × List Char) :=
  match cs with
  | a :: b :: c :: d :: rest => (Decimal.digitsValue? 16 [a, b, c, d]).map fun n => (n, rest)
  | _ => none

/-- The character after `\u`: one unit, or the two halves of a surrogate pair. -/
def unitChar? (cs : List Char) : Option (Char × List Char) :=
  match hexUnit? cs with
  | none => none
  | some (n, rest) =>
    if 0xDC00 ≤ n ∧ n ≤ 0xDFFF then none
    else if 0xD800 ≤ n ∧ n ≤ 0xDBFF then
      match rest with
      | '\\' :: 'u' :: more =>
        match hexUnit? more with
        | some (m, left) =>
          if 0xDC00 ≤ m ∧ m ≤ 0xDFFF then
            some (Char.ofNat (0x10000 + (n - 0xD800) * 0x400 + (m - 0xDC00)), left)
          else none
        | none => none
      | _ => none
    else some (Char.ofNat n, rest)

/-- The character of an escape, after its backslash. -/
def escaped? (cs : List Char) : Option (Char × List Char) :=
  match cs with
  | 'n' :: rest => some ('\n', rest)
  | 't' :: rest => some ('\t', rest)
  | 'r' :: rest => some ('\r', rest)
  | 'b' :: rest => some (Char.ofNat 8, rest)
  | 'f' :: rest => some (Char.ofNat 12, rest)
  | 'u' :: rest => unitChar? rest
  | '/' :: rest => some ('/', rest)
  | '\\' :: rest => some ('\\', rest)
  | '"' :: rest => some ('"', rest)
  | _ => none

/-- The rest of a string, after its opening quote; the characters read so far are given last first. -/
def stringFrom? (fuel : Nat) (read : List Char) (cs : List Char) : Option (String × List Char) :=
  match fuel, cs with
  | 0, _ => none
  | _, [] => none
  | fuel + 1, c :: rest =>
    if c = '"' then some (String.ofList read.reverse, rest)
    else if c = '\\' then
      match escaped? rest with
      | some (e, left) => stringFrom? fuel (e :: read) left
      | none => none
    else if c.toNat < 0x20 then none
    else stringFrom? fuel (c :: read) rest

/-- The characters that a number can be made of. -/
def isNumberChar (c : Char) : Bool :=
  c.isDigit || c == '-' || c == '+' || c == '.' || c == 'e' || c == 'E'

/-- Digits, without a zero in front of others. -/
def isWhole (cs : List Char) : Bool :=
  match cs with
  | [] => false
  | ['0'] => true
  | '0' :: _ => false
  | _ => cs.all Char.isDigit

/-- A number in double precision, rounded once from all its digits. One out of range is refused. -/
def rounded? (negative : Bool) (cs : List Char) : Option Json :=
  let nearest := (Decimal.unsignedDecimal? cs).map fun d =>
    Decimal.Binary64.ofDecimal negative d.1 d.2
  (nearest.filter Decimal.Binary64.isFinite).map .number

/-- A whole number without its sign. A negative zero, and what does not fit 64 bits, is one in double
precision. -/
def whole? (negative : Bool) (cs : List Char) : Option Json :=
  match Decimal.digitsValue? 10 cs with
  | none => none
  | some value =>
    let n : Int := if negative then -(value : Int) else value
    if Decimal.least64 ≤ n ∧ n ≤ Decimal.greatestUnsigned64 ∧ !(negative && value == 0) then
      some (.int n)
    else rounded? negative cs

/-- The value of a number without its sign. A point needs a digit on each side. -/
def magnitude? (negative : Bool) (cs : List Char) : Option Json :=
  if !isWhole (cs.takeWhile Char.isDigit) then none
  else
    match cs.dropWhile Char.isDigit with
    | [] => whole? negative cs
    | '.' :: rest =>
      if (rest.head?.map Char.isDigit).getD false then rounded? negative cs else none
    | _ => rounded? negative cs

/-- A number. -/
def number? (cs : List Char) : Option (Json × List Char) :=
  let here := cs.takeWhile isNumberChar
  let rest := cs.dropWhile isNumberChar
  match here with
  | '-' :: digits => (magnitude? true digits).map fun v => (v, rest)
  | _ => (magnitude? false here).map fun v => (v, rest)

mutual

/-- One value. Every bracket that is entered takes one off `depth`. -/
def valueFrom? (fuel depth : Nat) (cs : List Char) : Option (Json × List Char) :=
  match fuel with
  | 0 => none
  | fuel + 1 =>
    match skipSpace cs with
    | 'n' :: 'u' :: 'l' :: 'l' :: rest => some (.null, rest)
    | 't' :: 'r' :: 'u' :: 'e' :: rest => some (.bool true, rest)
    | 'f' :: 'a' :: 'l' :: 's' :: 'e' :: rest => some (.bool false, rest)
    | '"' :: rest =>
      (stringFrom? (rest.length + 1) [] rest).map fun r => (.string r.1, r.2)
    | '[' :: rest =>
      match depth with
      | 0 => none
      | depth + 1 =>
        match skipSpace rest with
        | ']' :: left => some (.array [], left)
        | _ => itemsFrom? fuel depth [] rest
    | '\x7b' :: rest =>
      match depth with
      | 0 => none
      | depth + 1 =>
        match skipSpace rest with
        | '\x7d' :: left => some (.object [], left)
        | _ => membersFrom? fuel depth [] rest
    | other => number? other

/-- The items of an array up to its end, at least one; those read so far are given last first. -/
def itemsFrom? (fuel depth : Nat) (read : List Json) (cs : List Char) : Option (Json × List Char) :=
  match fuel with
  | 0 => none
  | fuel + 1 =>
    match valueFrom? fuel depth cs with
    | none => none
    | some (v, rest) =>
      match skipSpace rest with
      | ',' :: left => itemsFrom? fuel depth (v :: read) left
      | ']' :: left => some (.array (v :: read).reverse, left)
      | _ => none

/-- The members of an object up to its end, at least one. Of members with one name the last counts. -/
def membersFrom? (fuel depth : Nat) (read : List (String × Json)) (cs : List Char) :
    Option (Json × List Char) :=
  match fuel with
  | 0 => none
  | fuel + 1 =>
    match skipSpace cs with
    | '"' :: rest =>
      match stringFrom? (rest.length + 1) [] rest with
      | none => none
      | some (name, rest) =>
        match skipSpace rest with
        | ':' :: rest =>
          match valueFrom? fuel depth rest with
          | none => none
          | some (v, rest) =>
            match skipSpace rest with
            | ',' :: left => membersFrom? fuel depth (insertName name v read) left
            | '\x7d' :: left => some (.object (insertName name v read), left)
            | _ => none
        | _ => none
    | _ => none

end

/-- The value of a text that is exactly one value. -/
def read? (s : String) : Option Json :=
  let cs := s.toList
  match valueFrom? (2 * cs.length + 2) nestingLimit cs with
  | some (v, rest) => if (skipSpace rest).isEmpty then some v else none
  | none => none

/-! ### Writing -/

/-- Whole numbers keep a zero after the point, and a tie goes to the even digits. -/
def numbers : Decimal.Layout := ⟨some (-5), some 15, .toEven, "null", "null"⟩

/-- One character of a string. -/
def charText (c : Char) : String :=
  if c = '"' then "\\\""
  else if c = '\\' then "\\\\"
  else if c.toNat < 0x20 then
    let digits := Nat.toDigits 16 c.toNat
    "\\u" ++ String.ofList (List.replicate (4 - digits.length) '0' ++ digits)
  else c.toString

/-- A string between quotes. -/
def stringText (s : String) : String :=
  "\"" ++ String.join (s.toList.map charText) ++ "\""

mutual

/-- A value on one line. -/
def text : Json → String
  | .null => "null"
  | .bool b => if b then "true" else "false"
  | .int n => toString n
  | .number x => numbers.text x
  | .string s => stringText s
  | .array items => "[" ++ itemsText items ++ "]"
  | .object members => "\x7b" ++ membersText members ++ "\x7d"

/-- Items with commas between them. -/
def itemsText : List Json → String
  | [] => ""
  | [v] => text v
  | v :: w :: rest => text v ++ "," ++ itemsText (w :: rest)

/-- Members with commas between them. -/
def membersText : List (String × Json) → String
  | [] => ""
  | [(name, v)] => stringText name ++ ":" ++ text v
  | (name, v) :: e :: rest => stringText name ++ ":" ++ text v ++ "," ++ membersText (e :: rest)

end

/-! ### Members -/

/-- The member of an object with a name. -/
def member? (v : Json) (name : String) : Option Json :=
  match v with
  | .object members => lookupName name members
  | _ => none

end Json

end Lakehouse
