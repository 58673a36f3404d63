import Lakehouse.Proofs.Metadata.Account

/-!
# Gathering does not depend on the schedule

How many workers there are, and in what order they and the receiver take their turns, decides in
which order answers arrive, and over which connection a task is asked. Where neither matters to what
comes of a task, it does not matter to what is collected either.

- `Warehouse.Steady`: every connection is opened, and what comes of a task depends on the task
  alone. A task may still fail or break off, and its worker then opens another connection.
- `exists_collection_of_steady`: the collection has the reports of all tasks, whatever the schedule.
- **`gathers_alike`**: two runs with any numbers of workers collect the same batches and the same
  failures, up to their order.
-/

namespace Lakehouse

variable {C : Type} {w : Warehouse C} {outcome : CatalogTask → Outcome Batch}

/-- Every connection is opened, and what comes of a task depends on the task alone. -/
structure Warehouse.Steady (w : Warehouse C) (outcome : CatalogTask → Outcome Batch) : Prop where
  opening : ∀ events, ∃ c, w.opening events = .answered (.ok c)
  asking : ∀ events c task, w.asking events c task = outcome task

/-- The reports of tasks, given what comes of each. -/
def reportsOf (outcome : CatalogTask → Outcome Batch) (tasks : List CatalogTask) :
    List (Answer Batch) :=
  tasks.map fun task => task.report (outcome task).answer

/-- Answers that are what came of each task are reported as such. -/
theorem zipWith_report_eq {tasks : List CatalogTask} {answers : List (Answer Batch)}
    (hlen : answers.length = tasks.length)
    (h : ∀ (i : Nat) task answer, tasks[i]? = some task → answers[i]? = some answer →
      answer = (outcome task).answer) :
    List.zipWith CatalogTask.report tasks answers = reportsOf outcome tasks := by
  unfold reportsOf
  refine List.ext_getElem (by simp [hlen]) fun i hi hi' => ?_
  rw [List.getElem_zipWith, List.getElem_map]
  congr 1
  exact h i _ _ (List.getElem?_eq_getElem _) (List.getElem?_eq_getElem _)

/-- Gathering from a steady warehouse ends with the reports of all tasks. -/
theorem exists_collection_of_steady {threads : Nat} {tasks : List CatalogTask} {turns : List Turn}
    {s : PoolState C CatalogTask Batch Collection} (h : w.Steady outcome)
    (hs : (gatherPool w threads tasks).after? turns = some s) (hover : WorkerPool.isOver s = true) :
    ∃ c, WorkerPool.ending s = .complete c ∧
      c.batches.Perm ((reportsOf outcome tasks).filterMap reportedBatch?) ∧
      c.failures.Perm ((reportsOf outcome tasks).filterMap reportedFailure?) := by
  have hopens : w.AlwaysOpens := h.opening
  obtain ⟨c, answers, hend, hlen, hanswers, hbatches, hfailures⟩ :=
    exists_answers hopens.opening_ne_broke hs hover
  have hreports : List.zipWith CatalogTask.report tasks answers = reportsOf outcome tasks := by
    refine zipWith_report_eq hlen fun i task answer htask hi => ?_
    -- the task was asked over some connection after some events, and neither matters
    obtain ⟨events, c, rfl⟩ := hopens.exists_asking hs htask (hanswers i answer hi)
    rw [h.asking]
  rw [hreports] at hbatches hfailures
  exact ⟨c, hend, hbatches, hfailures⟩

/-- **Gathering does not depend on the schedule.** If every connection is opened and what comes of a
task depends on the task alone, then any two runs end with the same batches and the same failures,
up to their order, whatever the numbers of workers and the orders of turns. Connections need not be
the same in both runs: these are runs on two warehouses that agree on what comes of a task. -/
theorem gathers_alike (w w' : Warehouse C) (outcome : CatalogTask → Outcome Batch)
    (h : w.Steady outcome) (h' : w'.Steady outcome) (threads threads' : Nat)
    (relations : List Relation) (schemas : List Schema) :
    (gatherPool w threads (planTasks relations schemas)).AlwaysEnds fun s =>
      (gatherPool w' threads' (planTasks relations schemas)).AlwaysEnds fun s' =>
        ∃ c c', WorkerPool.ending s = .complete c ∧ WorkerPool.ending s' = .complete c' ∧
          c.batches.Perm c'.batches ∧ c.failures.Perm c'.failures := by
  refine WorkerPool.alwaysEnds_of_isOver fun turns s hs hover => ?_
  refine WorkerPool.alwaysEnds_of_isOver fun turns' s' hs' hover' => ?_
  obtain ⟨c, hend, hbatches, hfailures⟩ := exists_collection_of_steady h hs hover
  obtain ⟨c', hend', hbatches', hfailures'⟩ := exists_collection_of_steady h' hs' hover'
  exact ⟨c, c', hend, hend', hbatches.trans hbatches'.symm, hfailures.trans hfailures'.symm⟩

/-- A warehouse that numbers its connections, from a number on, by how much has happened before. -/
def Warehouse.numbered (first : Nat) (outcome : CatalogTask → Outcome Batch) : Warehouse Nat where
  opening events := .answered (.ok (first + events.length))
  asking _ _ task := outcome task

theorem Warehouse.steady_numbered (first : Nat) (outcome : CatalogTask → Outcome Batch) :
    (Warehouse.numbered first outcome).Steady outcome where
  opening events := ⟨first + events.length, rfl⟩
  asking _ _ _ := rfl

/-- One worker and as many as there can be, with a task that breaks off, one that fails and one
whose batch has no keys. -/
theorem gathers_alike_numbered :
    (Warehouse.numbered 0 (Warehouse.unsteady.asking [] ())).Steady
        (Warehouse.unsteady.asking [] ()) ∧
      (Warehouse.numbered 7 (Warehouse.unsteady.asking [] ())).Steady
        (Warehouse.unsteady.asking [] ()) ∧
      (gatherPool (.numbered 0 (Warehouse.unsteady.asking [] ())) 1
        (planTasks [⟨"db", "s", "t"⟩, ⟨"db", "r", "u"⟩]
          [⟨"db", "gone"⟩, ⟨"db", "locked"⟩, ⟨"db", "odd"⟩, ⟨"db", "s"⟩, ⟨"db", "r"⟩])).AlwaysEnds
        fun s =>
          (gatherPool (.numbered 7 (Warehouse.unsteady.asking [] ())) 0
            (planTasks [⟨"db", "s", "t"⟩, ⟨"db", "r", "u"⟩]
              [⟨"db", "gone"⟩, ⟨"db", "locked"⟩, ⟨"db", "odd"⟩, ⟨"db", "s"⟩,
                ⟨"db", "r"⟩])).AlwaysEnds
            fun s' => ∃ c c', WorkerPool.ending s = .complete c ∧
              WorkerPool.ending s' = .complete c' ∧ c.batches.Perm c'.batches ∧
              c.failures.Perm c'.failures :=
  ⟨Warehouse.steady_numbered 0 _, Warehouse.steady_numbered 7 _,
    gathers_alike _ _ _ (Warehouse.steady_numbered 0 _) (Warehouse.steady_numbered 7 _) 1 0 _ _⟩

end Lakehouse
