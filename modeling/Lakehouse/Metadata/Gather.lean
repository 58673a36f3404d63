import Lakehouse.Metadata.Collection
import Lakehouse.Metadata.Plan
import Lakehouse.WorkerPool

/-!
# Gathering metadata

Metadata for the schemas in use is gathered by a pool of workers, one task per answer. Every task is
answered or reported: a task that fails never stops the others.

- `Warehouse`: what connecting to a warehouse, and asking it a task, would end with.
- `gatherPool`: the pool that gathers.
- `gather`, `gatherOnly`: what gathering comes to, for all relations or for some.
-/

namespace Lakehouse

/-- A warehouse with connections `C`. What it answers may depend on all that happened before. -/
structure Warehouse (C : Type) where
  opening : List (PoolEvent C Batch) → Outcome C
  asking : List (PoolEvent C Batch) → C → CatalogTask → Outcome Batch

variable {C : Type}

/-- The pool that gathers the answers to some tasks. -/
def gatherPool (w : Warehouse C) (threads : Nat) (tasks : List CatalogTask) :
    WorkerPool C CatalogTask Batch Collection where
  keys := tasks
  wish := threads
  opening := w.opening
  asking := w.asking
  start := .empty
  fold collection task answer := .ok (collection.absorb task.label answer)

/-- A result narrowed down, which may fail. -/
def Ending.narrow {R : Type} (f : R → Answer R) : Ending R → Ending R
  | .complete result =>
    match f result with
    | .ok result => .complete result
    | .error failure => .failed failure
  | other => other

/-- A run of gathering for the schemas in use. -/
def gatherRun (w : Warehouse C) (threads : Nat) (relations : List Relation) (schemas : List Schema) :
    PoolState C CatalogTask Batch Collection :=
  (gatherPool w threads (planTasks relations schemas)).run

/-- Metadata for every relation in the schemas in use. -/
def gather (w : Warehouse C) (threads : Nat) (relations : List Relation) (schemas : List Schema) :
    Ending Collection :=
  WorkerPool.ending (gatherRun w threads relations schemas)

/-- Metadata for some relations in the schemas in use. -/
def gatherOnly (w : Warehouse C) (threads : Nat) (relations : List Relation) (schemas : List Schema)
    (only : List Relation) : Ending Collection :=
  (gather w threads relations schemas).narrow fun c => c.retain (only.map Relation.key)

end Lakehouse
