import Lakehouse.Table.Cell
import Lakehouse.RelationKey
import Lakehouse.Text.Quoted

/-!
# Batches

A batch is a small columnar table: named and typed columns of one length. A batch of metadata names a
relation in each row, by three text columns.

- `Column`: values of one type. `Column.holding` makes one of any values, and `Column.ofOffered` refuses
  values of another width than the type has.
- `Batch.build`: a batch of given columns, if they fit together.
- `Batch.column`: the first column of a name, and `Batch.texts`: its values, if it holds texts.
- `Batch.keys`: the key of the relation that each row is about.
- `Batch.select`: some of the rows.
-/

namespace Lakehouse

/-- The description of a column. -/
structure Field where
  name : String
  type : ColumnType
  nullable : Bool
  deriving DecidableEq, Repr

/-- A column of values that are null or of its type. -/
@[ext]
structure Column where
  field : Field
  cells : List Cell
  typed : ∀ cell ∈ cells, field.type.Holds cell
  deriving DecidableEq, Repr

namespace Column

/-- A column of what its type holds for some values. -/
def holding (field : Field) (values : List Cell) : Column where
  field
  cells := values.map field.type.hold
  typed := by
    intro cell hcell
    obtain ⟨value, -, rfl⟩ := List.mem_map.1 hcell
    exact field.type.holds_hold value

/-- How many nulls are recorded. A column of nulls only keeps no record of them. -/
def recordedNulls (c : Column) : Nat :=
  if c.field.type = .null then 0 else c.cells.countP Cell.isNull

/-- A value has another width than its type. -/
def widthMismatch (expected got : Nat) : ColumnarFault :=
  .invalidArgument s!"Nested array size mismatch: one is {expected}, and the other is {got}"

/-- The first value of another width than its type, by its width. -/
def wrongWidth? (width : Nat) : List Cell → Option Nat
  | [] => none
  | .bytes bs :: rest => if bs.length = width then wrongWidth? width rest else some bs.length
  | _ :: rest => wrongWidth? width rest

/-- A column of the values offered to it. Values of a type of fixed width have that width. -/
def ofOffered (field : Field) (offered : List Cell) : Except ColumnarFault Column :=
  match field.type with
  | .fixedBinary width =>
    match wrongWidth? width offered with
    | some got => .error (widthMismatch width got)
    | none => .ok (holding field offered)
  | _ => .ok (holding field offered)

/-- What is read at a place may stand in the column, which is null where there is no such place. -/
theorem holds_getD (c : Column) (i : Nat) : c.field.type.Holds (c.cells.getD i .null) := by
  rw [List.getD_eq_getElem?_getD]
  cases hcell : c.cells[i]? with
  | none => exact .inl rfl
  | some cell => exact c.typed cell (List.mem_of_getElem? hcell)

/-- The values at some places, in that order. -/
def select (c : Column) (places : List Nat) : Column where
  field := c.field
  cells := places.map fun i => c.cells.getD i .null
  typed := by
    intro cell hcell
    obtain ⟨i, -, rfl⟩ := List.mem_map.1 hcell
    exact c.holds_getD i

end Column

/-- Columns of one length. The number of rows is kept for a batch without columns. -/
@[ext]
structure Batch where
  rows : Nat
  columns : List Column
  aligned : ∀ c ∈ columns, c.cells.length = rows

namespace Batch

/-- Nothing says how many rows there are. -/
def noRowCount : ColumnarFault :=
  .invalidArgument "must either specify a row count or at least one column"

/-- A column without nulls holds one. -/
def unexpectedNull (name : String) : ColumnarFault :=
  .invalidArgument s!"Column '{name}' is declared as non-nullable but contains null values"

/-- A column has another length than the batch. -/
def wrongLength (counted : Bool) : ColumnarFault :=
  .invalidArgument <|
    if counted then "all columns in a record batch must have the specified row count"
    else "all columns in a record batch must have the same length"

/-- A batch with a number of rows, if every column has that length. -/
def ofAligned? (rows : Nat) (columns : List Column) : Option Batch :=
  if h : ∀ c ∈ columns, c.cells.length = rows then some ⟨rows, columns, h⟩ else none

/-- A batch of columns that fit together. Without a row count the first column says how many rows
there are. -/
def build (columns : List Column) (rows? : Option Nat) : Except ColumnarFault Batch :=
  match rows?.or (columns.head?.map (·.cells.length)) with
  | none => .error noRowCount
  | some rows =>
    match columns.find? fun c => !c.field.nullable && 0 < c.recordedNulls with
    | some c => .error (unexpectedNull c.field.name)
    | none =>
      match ofAligned? rows columns with
      | some b => .ok b
      | none => .error (wrongLength rows?.isSome)

/-- The names of the columns. -/
def columnNames (b : Batch) : List String :=
  b.columns.map (·.field.name)

/-- The first column of a name. -/
def column? (b : Batch) (name : String) : Option Column :=
  b.columns.find? fun c => c.field.name == name

/-- There is no column of that name. -/
def missingColumn (name : String) (available : List String) : Failure :=
  { kind := .internal
    message := s!"expected column {name} not found, available are: {Text.quotedList available}" }

/-- The column holds no texts. -/
def notTexts (name : String) (type : ColumnType) : Failure :=
  { kind := .internal
    message := s!"expected column {name} to be a string column, got {type.text}" }

/-- The first column of a name. -/
def column (b : Batch) (name : String) : Answer Column :=
  match b.column? name with
  | some c => .ok c
  | none => .error (missingColumn name b.columnNames)

/-- The texts of a column, absent where it is null. -/
def texts (b : Batch) (name : String) : Answer (List (Option String)) :=
  match b.column name with
  | .error f => .error f
  | .ok c =>
    if c.field.type.isText then .ok (c.cells.map Cell.text?)
    else .error (notTexts name c.field.type)

/-- The column that names the database of a row's relation. -/
def databaseColumn : String := "table_database"

/-- The column that names the schema of a row's relation. -/
def schemaColumn : String := "table_schema"

/-- The column that names a row's relation within its schema. -/
def nameColumn : String := "table_name"

/-- The keys that three lists of names give, row by row; a name that is absent is empty. -/
def keysOf : List (Option String) → List (Option String) → List (Option String) → List RelationKey
  | d :: ds, s :: ss, n :: ns => .of (d.getD "") (s.getD "") (n.getD "") :: keysOf ds ss ns
  | _, _, _ => []

/-- The key of the relation that each row is about, in row order. -/
def keys (b : Batch) : Answer (List RelationKey) := do
  let databases ← b.texts databaseColumn
  let schemas ← b.texts schemaColumn
  let names ← b.texts nameColumn
  return keysOf databases schemas names

/-- The rows at some places, in that order. -/
def select (b : Batch) (places : List Nat) : Batch where
  rows := places.length
  columns := b.columns.map (·.select places)
  aligned := by
    intro c hc
    obtain ⟨d, -, rfl⟩ := List.mem_map.1 hc
    simp [Column.select]

end Batch

end Lakehouse
