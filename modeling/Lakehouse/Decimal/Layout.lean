import Lakehouse.Decimal.Binary64
import Lakehouse.Decimal.Digits

/-!
# Decimal notation

A number in double precision as a text, and a decimal text as such a number. The digits are always
the shortest that read back; how they are laid out is a `Layout`.

- `Layout`: which magnitudes are written with a point at its place, which way a tie between digits
  goes, and the names of the numbers that are not finite.
- `Layout.text`: a number laid out.
- `decimal?`: reading a decimal with a point and a power of ten.
-/

namespace Lakehouse

namespace Decimal

/-- A way to lay out shortest digits. A number is written with its point in place when its leading
digit stands at an exponent from `least` up to `greatest`, an absent bound being no bound; otherwise
its leading digit, a point and the other digits are followed by a power of ten. Of two shortest
decimals that are equally near, `tie` chooses. -/
structure Layout where
  least : Option Int
  greatest : Option Int
  tie : Binary64.Tie
  nan : String
  infinity : String

/-- The leading digit's exponent calls for a point in place. -/
def Layout.inPlace (l : Layout) (lead : Int) : Bool :=
  (match l.least with
    | some k => decide (k ≤ lead)
    | none => true) &&
  (match l.greatest with
    | some k => decide (lead ≤ k)
    | none => true)

/-- Digits with the point in place, and at least one digit on each side of it. -/
def pointInPlace (digits : List Char) (power : Int) : String :=
  if 0 ≤ power then
    String.ofList (digits ++ List.replicate power.toNat '0') ++ ".0"
  else
    let places := (-power).toNat
    if places < digits.length then
      String.ofList (digits.take (digits.length - places)) ++ "." ++
        String.ofList (digits.drop (digits.length - places))
    else
      "0." ++ String.ofList (List.replicate (places - digits.length) '0' ++ digits)

/-- One digit, a point and the others if there are others, and a power of ten. -/
def powerOfTen (digits : List Char) (lead : Int) : String :=
  let tail := digits.drop 1
  String.ofList (digits.take 1) ++ (if tail.isEmpty then "" else "." ++ String.ofList tail) ++
    "e" ++ toString lead

/-- A number in a layout. -/
def Layout.text (l : Layout) : Binary64 → String
  | .nan => l.nan
  | .infinite negative => (if negative then "-" else "") ++ l.infinity
  | .finite negative m e =>
    let d := Binary64.shortest l.tie m e
    let digits := Nat.toDigits 10 d.digits
    let lead := d.power + digits.length - 1
    (if negative then "-" else "") ++
      if m = 0 ∨ l.inPlace lead then pointInPlace digits d.power else powerOfTen digits lead

/-- Digits, then maybe a point and more digits, then maybe a power of ten: the digits as one whole
number and the power that goes with it. A digit is needed on one side of the point. -/
def unsignedDecimal? (cs : List Char) : Option (Nat × Int) :=
  let whole := cs.takeWhile Char.isDigit
  let rest := cs.dropWhile Char.isDigit
  let (fraction, rest) :=
    match rest with
    | '.' :: r => (r.takeWhile Char.isDigit, r.dropWhile Char.isDigit)
    | _ => ([], rest)
  let power? : Option Int :=
    match rest with
    | [] => some 0
    | c :: r => if c = 'e' ∨ c = 'E' then signedInteger? r else none
  match digitsValue? 10 (whole ++ fraction), power? with
  | some n, some p => some (n, p - fraction.length)
  | _, _ => none

/-- A decimal with an optional sign. -/
def decimal? (cs : List Char) : Option Binary64 :=
  match cs with
  | '-' :: rest => (unsignedDecimal? rest).map fun d => Binary64.ofDecimal true d.1 d.2
  | '+' :: rest => (unsignedDecimal? rest).map fun d => Binary64.ofDecimal false d.1 d.2
  | _ => (unsignedDecimal? cs).map fun d => Binary64.ofDecimal false d.1 d.2

end Decimal

end Lakehouse
