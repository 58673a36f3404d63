import Lakehouse.Proofs.Metadata.Account
import Lakehouse.Proofs.WorkerPool.Serial

/-!
# Gathering by a single worker

With one worker the order of the answers is that of the tasks, so that batches and failures come in
the order of the plan.

- `InPlanOrder`: a collection has the reports of the tasks in order.
- **`one_worker_is_a_loop`**: a pool of one worker comes to what the loop over its keys comes to, and
  gathering by one worker comes to a collection in plan order.
-/

namespace Lakehouse

variable {C D K V R : Type}

/-- There is one report for each task, which says what became of it, and the collection has the batches
and the failures of these reports, each in the order of the tasks. -/
def InPlanOrder (p : WorkerPool C CatalogTask Batch Collection)
    (s : PoolState C CatalogTask Batch Collection) (c : Collection) : Prop :=
  ∃ reports : List (Answer Batch), reports.length = p.keys.length ∧
    (∀ i task report, p.keys[i]? = some task → reports[i]? = some report →
      ReportedAs p s.events i task report) ∧
    c.batches = reports.filterMap reportedBatch? ∧ c.failures = reports.filterMap reportedFailure?

/-- Where one worker has gathered the answers to some tasks, their reports are in order. -/
theorem exists_inPlanOrder {w : Warehouse C} {tasks : List CatalogTask} {turns : List Turn}
    {s : PoolState C CatalogTask Batch Collection}
    (hopen : ∀ events panic, w.opening events ≠ .broke panic)
    (h : (gatherPool w 1 tasks).after? turns = some s) (hover : WorkerPool.isOver s = true) :
    ∃ c, WorkerPool.ending s = .complete c ∧ InPlanOrder (gatherPool w 1 tasks) s c := by
  obtain ⟨c, hend, hreports⟩ := exists_ofReports hopen h hover
  obtain ⟨answers, hlen, hreceived, hanswers⟩ := WorkerPool.answers_in_order rfl h hover hend
  rw [gatherPool_keys] at hlen
  rw [hreceived, filterMap_reportOf hlen] at hreports
  refine ⟨c, hend, List.zipWith CatalogTask.report tasks answers, ?_, ?_, ?_, ?_⟩
  · rw [List.length_zipWith, hlen, Nat.min_self, gatherPool_keys]
  · exact fun i task report => reportedAs_of_answers h hanswers
  · rw [hreports]
    rfl
  · rw [hreports]
    rfl

/-- **One worker is a loop**, in whatever order it and the receiver take their turns. If calls depend
on nothing but the calls before, a run ends as the loop does that goes through the keys one after
another and folds in each answer before the next call. In particular, gathering by one worker comes to
a collection that is in plan order, if opening a connection never breaks off. -/
theorem one_worker_is_a_loop (p : WorkerPool C K V R) (hwish : p.wish = 1)
    (hcalls : p.DependsOnCalls) (w : Warehouse D) (relations : List Relation) (schemas : List Schema)
    (hopen : ∀ events panic, w.opening events ≠ .broke panic) :
    (p.AlwaysEnds fun s => WorkerPool.ending s = p.serial) ∧
      (gatherPool w 1 (planTasks relations schemas)).AlwaysEnds fun s =>
        ∃ c, WorkerPool.ending s = .complete c ∧
          InPlanOrder (gatherPool w 1 (planTasks relations schemas)) s c := by
  constructor
  · exact WorkerPool.alwaysEnds_of_isOver fun turns s h hover =>
      WorkerPool.ending_eq_serial hwish hcalls h hover
  · exact WorkerPool.alwaysEnds_of_isOver fun turns s h hover => exists_inPlanOrder hopen h hover

/-- The first attempt to open a connection is refused. -/
def refusedOnce (attempt : Nat) : Outcome Nat :=
  if attempt = 0 then .answered (.error ⟨.driver, "refused", none⟩) else .answered (.ok attempt)

/-- Doubles keys, but breaks off with one of them. -/
def doubled (_connection key : Nat) : Outcome Nat :=
  if key = 3 then .broke ⟨some "lost"⟩ else .answered (.ok (2 * key))

/-- One worker doubles five keys, and the fold takes nothing but small answers. -/
def ahead : WorkerPool Nat Nat Nat (List (Answer Nat)) where
  keys := [1, 2, 3, 40, 5]
  wish := 1
  opening events := refusedOnce (WorkerPool.attempts events)
  asking _ := doubled
  start := []
  fold received _ a :=
    match a with
    | .ok n => if n < 50 then .ok (received ++ [a]) else .error ⟨.driver, "too large", none⟩
    | .error _ => .ok (received ++ [a])

/-- The loop stops at the fourth key, and so does a run in which the worker is done with all keys
before the first answer is folded in. Of the schemas of an unsteady warehouse the reports are in plan
order. -/
theorem one_worker_is_a_loop_ahead :
    ahead.wish = 1 ∧ ahead.DependsOnCalls ∧
      (∀ events panic, Warehouse.unsteady.opening events ≠ .broke panic) ∧
      (∃ turns s, ahead.after? turns = some s ∧ WorkerPool.isOver s = true ∧ s.next = 5 ∧
        WorkerPool.ending s = ahead.serial ∧
        ahead.serial = .failed ⟨.driver, "too large", none⟩) ∧
      (gatherPool .unsteady 1 (planTasks [] [⟨"db", "s"⟩, ⟨"db", "gone"⟩, ⟨"db", "t"⟩])).AlwaysEnds
        fun s => ∃ c, WorkerPool.ending s = .complete c ∧
          InPlanOrder (gatherPool .unsteady 1
            (planTasks [] [⟨"db", "s"⟩, ⟨"db", "gone"⟩, ⟨"db", "t"⟩])) s c := by
  have hopening : ∀ events, ahead.opening events = refusedOnce (WorkerPool.attempts events) :=
    fun _ => rfl
  have hasking : ∀ events c key, ahead.asking events c key = doubled c key := fun _ _ _ => rfl
  have hcalls : ahead.DependsOnCalls := WorkerPool.dependsOnCalls_of_script hopening hasking
  have hopen : ∀ events panic, Warehouse.unsteady.opening events ≠ .broke panic := by
    intro events panic h
    simp only [Warehouse.unsteady] at h
    split at h <;> cases h
  obtain ⟨hloop, hgather⟩ := one_worker_is_a_loop ahead rfl hcalls .unsteady []
    [⟨"db", "s"⟩, ⟨"db", "gone"⟩, ⟨"db", "t"⟩] hopen
  let turns : List Turn := List.replicate 18 (.worker 0) ++ List.replicate 4 .receiver
  have hrun : (ahead.after? turns).map (fun s => (WorkerPool.isOver s, s.next)) = some (true, 5) := by
    decide +kernel
  obtain ⟨s, hs, hlast⟩ := Option.map_eq_some_iff.1 hrun
  obtain ⟨hover, hnext⟩ := Prod.mk.inj hlast
  obtain ⟨-, -, hend⟩ := hloop turns s hs
  exact ⟨rfl, hcalls, hopen, ⟨turns, s, hs, hover, hnext, hend hover, rfl⟩, hgather⟩

end Lakehouse
