/-!
# Decimal digits

Reading and writing whole numbers in decimal.

- `digitValue?`, `digitsValue?`: the value of a digit, and of a row of digits in a given base.
- `signedInteger?`: an optional sign and decimal digits.
- `signed64?`: the same, within the range of a signed word of 64 bits.
- `padded`, `tenTo`: a number padded with zeros, and the powers of ten.
-/

namespace Lakehouse

namespace Decimal

/-- The value of a digit in a base up to sixteen. -/
def digitValue? (base : Nat) (c : Char) : Option Nat :=
  let value :=
    if '0' ≤ c ∧ c ≤ '9' then c.toNat - 48
    else if 'a' ≤ c ∧ c ≤ 'f' then c.toNat - 87
    else if 'A' ≤ c ∧ c ≤ 'F' then c.toNat - 55
    else base
  if value < base then some value else none

/-- The value of a row of digits that continues a number already read. -/
def digitsFrom? (base : Nat) (value : Nat) : List Char → Option Nat
  | [] => some value
  | c :: rest =>
    match digitValue? base c with
    | some d => digitsFrom? base (value * base + d) rest
    | none => none

/-- The value of a non-empty row of digits, with nothing else in it. -/
def digitsValue? (base : Nat) (cs : List Char) : Option Nat :=
  match cs with
  | [] => none
  | _ => digitsFrom? base 0 cs

/-- A whole number: a plus or a minus sign, if any, and decimal digits. -/
def signedInteger? (cs : List Char) : Option Int :=
  match cs with
  | '-' :: rest => (digitsValue? 10 rest).map fun n => -(n : Int)
  | '+' :: rest => (digitsValue? 10 rest).map fun n => (n : Int)
  | _ => (digitsValue? 10 cs).map fun n => (n : Int)

/-- The least signed word of 64 bits. -/
def least64 : Int := -9223372036854775808

/-- The greatest signed word of 64 bits. -/
def greatest64 : Int := 9223372036854775807

/-- The greatest unsigned word of 64 bits. -/
def greatestUnsigned64 : Int := 18446744073709551615

/-- The least signed word of 128 bits. -/
def least128 : Int := -170141183460469231731687303715884105728

/-- The greatest unsigned word of 128 bits. -/
def greatestUnsigned128 : Int := 340282366920938463463374607431768211455

/-- Within the range of a signed word of 64 bits. -/
def fits64 (n : Int) : Bool :=
  least64 ≤ n && n ≤ greatest64

/-- A whole number that fits a signed word of 64 bits. -/
def signed64? (s : String) : Option Int :=
  match signedInteger? s.toList with
  | some n => if fits64 n then some n else none
  | none => none

/-- A power of ten. -/
def tenTo (n : Nat) : Nat :=
  Nat.pow 10 n

/-- A whole number in decimal, padded with zeros on the left. -/
def padded (width : Nat) (n : Nat) : String :=
  let digits := Nat.toDigits 10 n
  String.ofList (List.replicate (width - digits.length) '0' ++ digits)

/-- Every number read fits. -/
theorem fits64_of_signed64? {s : String} {n : Int} (h : signed64? s = some n) :
    fits64 n = true := by
  simp only [signed64?] at h
  split at h
  · next m _ =>
    split at h
    · next hm => exact Option.some.inj h ▸ hm
    · exact absurd h (by simp)
  · exact absurd h (by simp)

end Decimal

end Lakehouse
