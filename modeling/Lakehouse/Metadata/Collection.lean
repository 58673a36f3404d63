import Lakehouse.Table.Merge

/-!
# Collections of metadata

What a collection of metadata ends with: the batches that tasks contributed, and the failures of the
tasks that contributed none. A failure never invalidates what other tasks contributed.

- `Collection.accept`: one more batch, if its rows say which relations they are about.
- `Collection.keys`, `Collection.rowCount`, `Collection.isComplete`: what has been collected.
- `Collection.retain`: the rows about some relations only.
- `Collection.table`: all rows as one table.
-/

namespace Lakehouse

/-- Batches, and the failures of the tasks that contributed none. -/
structure Collection where
  batches : List Batch
  failures : List Failure

namespace Collection

/-- Nothing collected. -/
def empty : Collection := ⟨[], []⟩

/-- How many rows there are. -/
def rowCount (c : Collection) : Nat :=
  c.batches.foldr (fun b count => b.rows + count) 0

/-- No task failed. -/
def isComplete (c : Collection) : Bool :=
  c.failures.isEmpty

/-- One more batch. Its rows must say which relations they are about. -/
def accept (c : Collection) (b : Batch) : Answer Collection :=
  b.keys.map fun _ => { c with batches := c.batches ++ [b] }

/-- The result of one task, taken in or reported under the task's label. -/
def absorb (c : Collection) (label : String) (result : Answer Batch) : Collection :=
  match result with
  | .error f => { c with failures := c.failures ++ [.ofTask label f] }
  | .ok b =>
    match c.accept b with
    | .ok c => c
    | .error f => { c with failures := c.failures ++ [.ofTask label f] }

/-- The keys of the relations that the rows are about, in order. -/
def keys (c : Collection) : Answer (List RelationKey) :=
  (c.batches.mapM Batch.keys).map List.flatten

end Collection

/-- The places of the keys that are wanted. -/
def wantedPlaces (only : List RelationKey) (keys : List RelationKey) : List Nat :=
  (keys.zipIdx.filter fun e => only.contains e.1).map (·.2)

/-- The rows about wanted relations. -/
def Batch.retain (only : List RelationKey) (b : Batch) : Answer Batch :=
  b.keys.map fun keys => b.select (wantedPlaces only keys)

namespace Collection

/-- The rows about wanted relations; a batch without any is dropped. -/
def retain (c : Collection) (only : List RelationKey) : Answer Collection :=
  (c.batches.mapM (Batch.retain only)).map fun batches =>
    { c with batches := batches.filter fun b => 0 < b.rows }

/-- All rows as one table, if any task contributed. -/
def table (c : Collection) : Answer (Option Batch) :=
  (mergeBatches c.batches).mapError ColumnarFault.toFailure

end Collection

end Lakehouse
