import Lakehouse.Calendar
import Lakehouse.Decimal.Layout
import Lakehouse.Failure
import Lakehouse.Text.Utf8

/-!
# Cells of columnar tables

The values that warehouses report metadata in, the types of their columns, and how a value of any type
is written as a text.

- `ColumnType`, `Cell`: the types and the values. `ColumnType.Holds` says which values a column of a
  type may hold, and `ColumnType.hold` is the value that it holds for one offered to it, null if that is
  of another kind.
- `ColumnarFault`: what can be wrong with columnar data.
- `ColumnType.toText`: a value as a text, where its type allows it.
-/

namespace Lakehouse

/-- What can be wrong with columnar data. -/
inductive ColumnarFault where
  | cast (problem : String)
  | schema (problem : String)
  | invalidArgument (problem : String)
  | compute (problem : String)
  | parse (problem : String)
  | divideByZero
  | notYetImplemented (problem : String)
  deriving DecidableEq, Repr

/-- The fault in words. -/
def ColumnarFault.text : ColumnarFault → String
  | cast p => "Cast error: " ++ p
  | schema p => "Schema error: " ++ p
  | invalidArgument p => "Invalid argument error: " ++ p
  | compute p => "Compute error: " ++ p
  | parse p => "Parser error: " ++ p
  | divideByZero => "Divide by zero error"
  | notYetImplemented p => "Not yet implemented: " ++ p

/-- The fault as a failure. -/
def ColumnarFault.toFailure (fault : ColumnarFault) : Failure :=
  { kind := .columnar, message := fault.text }

/-- The type of a column. There are three kinds of text, which hold the same values. -/
inductive ColumnType where
  | utf8
  | largeUtf8
  | utf8View
  | int32
  | int64
  | uint64
  | float64
  | boolean
  | date32
  | binary
  | fixedBinary (width : Nat)
  | null
  deriving DecidableEq, Repr

/-- A value. Dates are counts of days. -/
inductive Cell where
  | null
  | text (s : String)
  | int (n : Int)
  | float (x : Decimal.Binary64)
  | bool (b : Bool)
  | bytes (bs : List UInt8)
  deriving DecidableEq, Repr

/-- The text of a value that is one. -/
def Cell.text? : Cell → Option String
  | text s => some s
  | _ => none

/-- The value is null. -/
def Cell.isNull : Cell → Bool
  | null => true
  | _ => false

namespace ColumnType

/-- The name of a type. -/
def text : ColumnType → String
  | utf8 => "Utf8"
  | largeUtf8 => "LargeUtf8"
  | utf8View => "Utf8View"
  | int32 => "Int32"
  | int64 => "Int64"
  | uint64 => "UInt64"
  | float64 => "Float64"
  | boolean => "Boolean"
  | date32 => "Date32"
  | binary => "Binary"
  | fixedBinary width => s!"FixedSizeBinary({width})"
  | null => "Null"

/-- The type is one of the three kinds of text. -/
def isText : ColumnType → Bool
  | utf8 | largeUtf8 | utf8View => true
  | _ => false

/-- The value is one of the type. -/
def admits : ColumnType → Cell → Bool
  | utf8, .text _ | largeUtf8, .text _ | utf8View, .text _ => true
  | int32, .int n | date32, .int n => -2147483648 ≤ n && n ≤ 2147483647
  | int64, .int n => Decimal.fits64 n
  | uint64, .int n => 0 ≤ n && n ≤ Decimal.greatestUnsigned64
  | float64, .float _ => true
  | boolean, .bool _ => true
  | binary, .bytes _ => true
  | fixedBinary width, .bytes bs => bs.length == width
  | _, _ => false

/-- The value may stand in a column of the type: it is null or one of the type. -/
def Holds (t : ColumnType) (c : Cell) : Prop :=
  c = .null ∨ t.admits c = true

instance (t : ColumnType) (c : Cell) : Decidable (t.Holds c) :=
  inferInstanceAs (Decidable (_ ∨ _))

/-- What a column of the type holds for a value offered to it: a whole number becomes one in double
precision where such numbers are held, and a value of another kind is null. -/
def hold (t : ColumnType) (c : Cell) : Cell :=
  match t, c with
  | float64, .int n => .float (Decimal.Binary64.ofInt n)
  | t, c => if t.admits c then c else .null

/-- Whatever is offered to a column, what it holds may stand in it. -/
theorem holds_hold (t : ColumnType) (c : Cell) : t.Holds (t.hold c) := by
  unfold hold
  split
  · exact .inr rfl
  · split
    · next hadmits => exact .inr hadmits
    · exact .inl rfl

/-- Numbers as texts: from `1e-5` up to `1e16` with a point in place, and a tie between digits going to
the even ones. -/
def castNumbers : Decimal.Layout := ⟨some (-5), some 15, .toEven, "NaN", "inf"⟩

/-- The years that a date can be written in. -/
def isDateYear (year : Int) : Bool :=
  -262143 ≤ year && year ≤ 262142

/-- The date is outside the calendar. -/
def noSuchDate (days : Int) : ColumnarFault :=
  .cast s!"Failed to convert {days} to temporal for Date32"

/-- The type has no values that can be written as texts. -/
def notCastable (t : ColumnType) : ColumnarFault :=
  .cast s!"Casting from {t.text} to Utf8 not supported"

/-- Values of the type can be written as texts. -/
def isCastable : ColumnType → Bool
  | fixedBinary _ => false
  | _ => true

/-- A value as a text. Bytes that encode no text are null. -/
def toText (t : ColumnType) (c : Cell) : Except ColumnarFault Cell :=
  if !t.isCastable then .error t.notCastable
  else
    match c with
    | .null => .ok .null
    | .text s => .ok (.text s)
    | .bool b => .ok (.text (if b then "true" else "false"))
    | .float x => .ok (.text (castNumbers.text x))
    | .bytes bs =>
      match Text.ofBytes? bs with
      | some s => .ok (.text s)
      | none => .ok .null
    | .int n =>
      if t = .date32 then
        let date := Date.ofDays n
        if isDateYear date.year then .ok (.text date.text) else .error (noSuchDate n)
      else .ok (.text (toString n))

end ColumnType

end Lakehouse
