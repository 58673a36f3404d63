import Lakehouse.Decimal.Digits

/-!
# Numbers in double precision

A double-precision number as a sign, a whole mantissa and a power of two, and the two conversions that
a text format needs.

- `Binary64`: the numbers; a finite one is `±mantissa · 2 ^ exponent`.
- `Binary64.ofDecimal`: the number nearest to a decimal, a tie going to the even mantissa.
- `Binary64.shortest`: the fewest decimal digits that read back as the number, and of those with the
  fewest digits the nearest. Where two are equally near, a `Tie` chooses.
- `Binary64.toWord?`: the number as a signed word of 64 bits, where it is a whole one.
-/

namespace Lakehouse

namespace Decimal

/-- A number in double precision. The finite ones have a mantissa below `2 ^ 53` and an exponent from
`-1074` up to `971`. -/
inductive Binary64 where
  | nan
  | infinite (negative : Bool)
  | finite (negative : Bool) (mantissa : Nat) (exponent : Int)
  deriving DecidableEq, Repr

namespace Binary64

/-- The least mantissa of a number that is not tiny: `2 ^ 52`. -/
def leastMantissa : Nat := 4503599627370496

/-- The numerator and the denominator of a quotient divided by a power of two. -/
def scale (num den : Nat) (e : Int) : Nat × Nat :=
  if 0 ≤ e then (num, den <<< e.toNat) else (num <<< (-e).toNat, den)

/-- The whole number nearest to a quotient, a tie going to the even one. -/
def roundEven (num den : Nat) : Nat :=
  let q := num / den
  let r := num % den
  if 2 * r < den then q
  else if 2 * r = den then (if q % 2 = 0 then q else q + 1)
  else q + 1

/-- The number nearest to a positive quotient. -/
def ofQuotient (negative : Bool) (num den : Nat) : Binary64 :=
  let low : Int := max ((num.log2 : Int) - den.log2 - 53) (-1074)
  let floor := (scale num den low).1 / (scale num den low).2
  let e := if 2 * leastMantissa ≤ floor then low + 1 else low
  let m := roundEven (scale num den e).1 (scale num den e).2
  let (m, e) := if m = 2 * leastMantissa then (leastMantissa, e + 1) else (m, e)
  if 971 < e then .infinite negative else .finite negative m e

/-- The number nearest to `±digits · 10 ^ power`. Powers far outside the range are decided at once. -/
def ofDecimal (negative : Bool) (digits : Nat) (power : Int) : Binary64 :=
  if digits = 0 then .finite negative 0 (-1074)
  else
    let magnitude := ((Nat.toDigits 10 digits).length : Int) + power
    if 400 < magnitude then .infinite negative
    else if magnitude < -400 then .finite negative 0 (-1074)
    else if 0 ≤ power then ofQuotient negative (digits * tenTo power.toNat) 1
    else ofQuotient negative digits (tenTo (-power).toNat)

/-- The number nearest to a whole one. -/
def ofInt (n : Int) : Binary64 :=
  ofDecimal (n < 0) n.natAbs 0

/-- Finite numbers only. -/
def isFinite : Binary64 → Bool
  | .finite .. => true
  | _ => false

/-- Equality of numbers: the two zeros are equal, and so is what is not a number to itself. -/
def sameNumber : Binary64 → Binary64 → Bool
  | .finite s m e, .finite s' m' e' => (m == 0 && m' == 0) || (s == s' && m == m' && e == e')
  | x, y => x == y

/-! ### Shortest digits -/

/-- The exponent of the leading decimal digit of a positive quotient. -/
def leadingExponent (num den : Nat) : Int :=
  let guess : Int := ((num.log2 : Int) - den.log2) * 30103 / 100000
  -- the guess is off by one at most, on either side
  let atLeast (k : Int) : Bool :=
    if 0 ≤ k then den * tenTo k.toNat ≤ num else den ≤ num * tenTo (-k).toNat
  if atLeast (guess + 1) then guess + 1
  else if atLeast guess then guess
  else if atLeast (guess - 1) then guess - 1
  else guess - 2

/-- A decimal `digits · 10 ^ power`. -/
structure Digits where
  digits : Nat
  power : Int
  deriving DecidableEq, Repr

/-- A decimal as a quotient. -/
def Digits.quotient (d : Digits) : Nat × Nat :=
  if 0 ≤ d.power then (d.digits * tenTo d.power.toNat, 1) else (d.digits, tenTo (-d.power).toNat)

/-- The decimal lies between two quotients, the ends included or not. -/
def Digits.between (d : Digits) (low high : Nat × Nat) (ends : Bool) : Bool :=
  let q := d.quotient
  if ends then low.1 * q.2 ≤ q.1 * low.2 && q.1 * high.2 ≤ high.1 * q.2
  else low.1 * q.2 < q.1 * low.2 && q.1 * high.2 < high.1 * q.2

/-- The distance of two quotients, times the product of their denominators. -/
def distance (a b : Nat × Nat) : Nat :=
  ((a.1 * b.2 : Int) - b.1 * a.2).natAbs

/-- Which of two neighbours on a decimal grid is taken when a value lies halfway between them: the one
with the even digits, or the one farther from zero. -/
inductive Tie where
  | toEven
  | up
  deriving DecidableEq, Repr

/-- The upper neighbour is taken, where `below` are the digits of the lower one. -/
def Tie.takesAbove : Tie → Nat → Bool
  | toEven, below => below % 2 == 1
  | up, _ => true

/-- Of the two neighbours of a value on the grid with `count` digits, the nearer one that reads back,
if either does. -/
def onGrid? (tie : Tie) (value low high : Nat × Nat) (ends : Bool) (lead : Int) (count : Nat) :
    Option Digits :=
  let power := lead - (count : Int) + 1
  let floor :=
    if 0 ≤ power then value.1 / (value.2 * tenTo power.toNat)
    else value.1 * tenTo (-power).toNat / value.2
  let below : Digits := ⟨floor, power⟩
  let above : Digits := ⟨floor + 1, power⟩
  match below.between low high ends, above.between low high ends with
  | true, true =>
    let db := distance value below.quotient * above.quotient.2
    let da := distance value above.quotient * below.quotient.2
    if db < da then some below
    else if da < db then some above
    else if tie.takesAbove floor then some above else some below
  | true, false => some below
  | false, true => some above
  | false, false => none

/-- Without trailing zeros in the digits. -/
def Digits.strip (d : Digits) : Nat → Digits
  | 0 => d
  | fuel + 1 =>
    if d.digits % 10 = 0 ∧ d.digits ≠ 0 then Digits.strip ⟨d.digits / 10, d.power + 1⟩ fuel else d

/-- The fewest digits that read back as `mantissa · 2 ^ exponent`. -/
def shortest (tie : Tie) (mantissa : Nat) (exponent : Int) : Digits :=
  if mantissa = 0 then ⟨0, 0⟩
  else
    let quarter (n : Nat) : Nat × Nat :=
      let s := scale n 1 (-(exponent - 2))
      (s.1, s.2)
    let value := quarter (4 * mantissa)
    let narrow := mantissa = leastMantissa ∧ -1074 < exponent
    let low := quarter (4 * mantissa - (if narrow then 1 else 2))
    let high := quarter (4 * mantissa + 2)
    let lead := leadingExponent value.1 value.2
    let grids := (List.range 17).map (· + 1)
    match grids.findSome? (onGrid? tie value low high (mantissa % 2 == 0) lead) with
    | some d => d.strip 20
    | none => ⟨0, 0⟩

/-- The number as a signed word of 64 bits, where it is a whole one in that range. The end of the
range itself is out of reach by one and taken as the greatest word. -/
def toWord? : Binary64 → Option Int
  | .finite negative m e =>
    let s := scale m 1 (-e)
    if s.1 % s.2 = 0 then
      let n : Int := if negative then -((s.1 / s.2 : Nat) : Int) else ((s.1 / s.2 : Nat) : Int)
      if -9223372036854775808 ≤ n ∧ n ≤ 9223372036854775808 then
        some (min n 9223372036854775807)
      else none
    else none
  | _ => none

end Binary64

end Decimal

end Lakehouse
