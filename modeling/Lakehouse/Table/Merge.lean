import Lakehouse.Table.Batch

/-!
# Merging batches

Batches of different shape are merged into one table. Its columns are all the columns of the parts, in
order of first appearance. A column that a part lacks is null for that part's rows, and a column whose
type differs between parts holds texts.

- `unifiedFields`: the columns of the merged table.
- `Batch.conform`: the values of a part under these columns.
- `mergeBatches`: the merged table, absent when there are no parts.
-/

namespace Lakehouse

/-- One more field of a part: a new column, or a vote on the type of one that is there already. -/
def addField (f : Field) : List Field → List Field
  | [] => [{ f with nullable := true }]
  | g :: rest =>
    if g.name = f.name then
      (if g.type = f.type then g else { name := g.name, type := .utf8, nullable := true }) :: rest
    else g :: addField f rest

/-- The columns of the merged table. -/
def unifiedFields (parts : List Batch) : List Field :=
  (parts.flatMap fun b => b.columns.map (·.field)).foldl (fun fields f => addField f fields) []

namespace Batch

/-- A part's values under one column of the merged table. -/
def conformTo (b : Batch) (f : Field) : Except ColumnarFault (List Cell) :=
  match b.column? f.name with
  | none => .ok (List.replicate b.rows .null)
  | some c =>
    if c.field.type = f.type then .ok c.cells
    else if c.field.type.isCastable then c.cells.mapM c.field.type.toText
    else .error c.field.type.notCastable

/-- A part's values under the columns of the merged table. A table without columns cannot say how many
rows it has. -/
def conform (fields : List Field) (b : Batch) : Except ColumnarFault (List (List Cell)) :=
  if fields.isEmpty then .error noRowCount else fields.mapM b.conformTo

end Batch

/-- The values of several parts, column by column: those of the first part come first. -/
def stack (width : Nat) (parts : List (List (List Cell))) : List (List Cell) :=
  parts.foldr (List.zipWith (· ++ ·)) (List.replicate width [])

/-- The merged table of at least one part. -/
def mergeParts (parts : List Batch) : Except ColumnarFault Batch := do
  let fields := unifiedFields parts
  let conformed ← parts.mapM (Batch.conform fields)
  -- what was conformed to a column may stand in it, and is held as it is
  Batch.build (List.zipWith Column.holding fields (stack fields.length conformed)) none

/-- The merged table, if there are parts. -/
def mergeBatches (parts : List Batch) : Except ColumnarFault (Option Batch) :=
  if parts.isEmpty then .ok none else (mergeParts parts).map some

end Lakehouse
