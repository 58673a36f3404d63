import Lakehouse.Decimal.Digits

/-!
# Dates

A date is stored as a number of days since 1 January 1970, in the Gregorian calendar carried on in
both directions.

- `Date.ofDays`: year, month and day of such a number.
- `Date.text`: the date as `YYYY-MM-DD`; years outside `0000` to `9999` carry a sign.
-/

namespace Lakehouse

/-- A day of the calendar. -/
structure Date where
  year : Int
  month : Nat
  day : Nat
  deriving DecidableEq, Repr

namespace Date

/-- The date a number of days after 1 January 1970. Years are counted from 1 March, so that a leap
day is the last of its year, in eras of 400 years, which all have the same number of days. -/
def ofDays (days : Int) : Date :=
  let shifted := days + 719468
  let era := shifted.fdiv 146097
  let ofEra := (shifted - era * 146097).toNat
  let yearOfEra := (ofEra - ofEra / 1460 + ofEra / 36524 - ofEra / 146096) / 365
  let ofYear := ofEra - (365 * yearOfEra + yearOfEra / 4 - yearOfEra / 100)
  let fromMarch := (5 * ofYear + 2) / 153
  let day := ofYear - (153 * fromMarch + 2) / 5 + 1
  let month := if fromMarch < 10 then fromMarch + 3 else fromMarch - 9
  let year := (yearOfEra : Int) + era * 400 + (if month ≤ 2 then 1 else 0)
  ⟨year, month, day⟩

/-- A year: four digits, or a sign and at least four digits. -/
def yearText (year : Int) : String :=
  if 0 ≤ year ∧ year ≤ 9999 then Decimal.padded 4 year.toNat
  else (if year < 0 then "-" else "+") ++ Decimal.padded 4 year.natAbs

/-- Year, month and day with hyphens between them. -/
def text (d : Date) : String :=
  yearText d.year ++ "-" ++ Decimal.padded 2 d.month ++ "-" ++ Decimal.padded 2 d.day

end Date

end Lakehouse
