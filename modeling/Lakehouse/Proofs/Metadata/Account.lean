import Lakehouse.Metadata.Gather
import Lakehouse.Proofs.Metadata.Rows
import Lakehouse.Proofs.WorkerPool.Delivery

/-!
# Every task is accounted for

A task that is answered comes to one report: its batch, or a failure under its label. A collection
is what the reports of all tasks come to, in the order in which the answers arrived.

- `CatalogTask.report`: the report of a task, given its answer. `Collection.absorb_ofReports` says
  that taking in an answer is adding its report, and `eq_ofReports_of_folds` that a collection is
  nothing but its reports.
- `exists_answers`: where a run of gathering is over, it has a collection with one report for every
  task.
- `Warehouse.AlwaysOpens`: every connection is opened, so that every answer is one that asking came
  to (`exists_asking`).
- `Cause`: the four ways in which a task can fail, and `ReportedAs`: what a report says about its
  task.
- **`every_task_is_accounted_for`**: whatever fails, and in whatever order, gathering ends with a
  collection to which each task contributed its batch or a failure.
-/

namespace Lakehouse

/-! ## Reports -/

/-- What a task comes to once it is answered: its batch, if the rows say which relations they are
about, or else a failure under the task's label. -/
def CatalogTask.report (task : CatalogTask) : Answer Batch → Answer Batch
  | .error f => .error (.ofTask task.label f)
  | .ok b =>
    match b.keys with
    | .ok _ => .ok b
    | .error f => .error (.ofTask task.label f)

/-- The batch of a report that has one. -/
def reportedBatch? : Answer Batch → Option Batch
  | .ok b => some b
  | .error _ => none

/-- The failure of a report that has one. -/
def reportedFailure? : Answer Batch → Option Failure
  | .ok _ => none
  | .error f => some f

theorem length_batches_add_failures (reports : List (Answer Batch)) :
    (reports.filterMap reportedBatch?).length + (reports.filterMap reportedFailure?).length =
      reports.length := by
  induction reports with
  | nil => rfl
  | cons report rest ih =>
    cases report with
    | ok b =>
      rw [List.filterMap_cons_some (by rfl), List.filterMap_cons_none (by rfl), List.length_cons,
        List.length_cons]
      omega
    | error f =>
      rw [List.filterMap_cons_none (by rfl), List.filterMap_cons_some (by rfl), List.length_cons,
        List.length_cons]
      omega

/-- A task is reported with a batch exactly if the answer is that batch and it has key columns. -/
theorem report_eq_ok_iff {task : CatalogTask} {answer : Answer Batch} {b : Batch} :
    task.report answer = .ok b ↔ answer = .ok b ∧ b.HasKeyColumns := by
  unfold CatalogTask.report
  constructor
  · intro h
    split at h
    · cases h
    · next batch =>
      split at h
      · next keys hkeys =>
        obtain rfl := Except.ok.inj h
        exact ⟨rfl, Batch.keys_ok_iff.1 ⟨keys, hkeys⟩⟩
      · cases h
  · rintro ⟨rfl, hcolumns⟩
    simp only [Batch.keys_eq hcolumns]

/-- A task is reported with a failure if it was answered by one, or by a batch without keys. -/
theorem cause_of_report {task : CatalogTask} {answer : Answer Batch} {f : Failure}
    (h : task.report answer = .error f) :
    ∃ cause, f = .ofTask task.label cause ∧
      (answer = .error cause ∨ ∃ b, answer = .ok b ∧ b.keys = .error cause) := by
  unfold CatalogTask.report at h
  split at h
  · next cause => exact ⟨cause, (Except.error.inj h).symm, .inl rfl⟩
  · next b =>
    split at h
    · cases h
    · next cause hkeys => exact ⟨cause, (Except.error.inj h).symm, .inr ⟨b, rfl, hkeys⟩⟩

namespace Collection

/-- The collection that reports come to. -/
def ofReports (reports : List (Answer Batch)) : Collection :=
  ⟨reports.filterMap reportedBatch?, reports.filterMap reportedFailure?⟩

/-- To take in an answer is to add its report. -/
theorem absorb_ofReports (reports : List (Answer Batch)) (task : CatalogTask)
    (answer : Answer Batch) :
    (ofReports reports).absorb task.label answer = ofReports (reports ++ [task.report answer]) := by
  unfold absorb accept CatalogTask.report ofReports
  rcases answer with f | b
  · simp [reportedBatch?, reportedFailure?]
  · cases hkeys : b.keys <;> simp [hkeys, Except.map, reportedBatch?, reportedFailure?]

end Collection

/-! ## What gathering comes to -/

variable {C : Type} {w : Warehouse C} {threads : Nat} {tasks : List CatalogTask}

/-- The report that a call of the fold adds. -/
def reportOf (tasks : List CatalogTask) (call : Nat × Answer Batch) : Option (Answer Batch) :=
  tasks[call.1]?.map fun task => task.report call.2

@[simp] theorem gatherPool_keys : (gatherPool w threads tasks).keys = tasks := rfl

/-- A collection is what the reports of its calls come to. -/
theorem eq_ofReports_of_folds {calls : List (Nat × Answer Batch)} {c : Collection}
    (h : (gatherPool w threads tasks).Folds calls (.listening c)) :
    c = .ofReports (calls.filterMap (reportOf tasks)) := by
  -- every receiver on the way, of which only those that listen have a collection
  generalize hr : Receiver.listening c = receiver at h
  induction h generalizing c with
  | start => exact Receiver.listening.inj hr
  | @next calls result result' i task answer hcalls htask hfold ih =>
    obtain rfl := Receiver.listening.inj hr
    have hcall : reportOf tasks (i, answer) = some (task.report answer) := by
      unfold reportOf
      rw [show tasks[i]? = some task from htask]
      rfl
    have hresult := ih rfl
    have habsorb : result.absorb task.label answer = c := Except.ok.inj hfold
    rw [List.filterMap_append, List.filterMap_cons_some hcall, List.filterMap_nil,
      ← Collection.absorb_ofReports, ← hresult, habsorb]
  | stop _ _ _ _ => cases hr

/-- One answer for each task, by index, makes one report for each task. -/
theorem filterMap_reportOf {answers : List (Answer Batch)} (h : answers.length = tasks.length) :
    (answers.mapIdx Prod.mk).filterMap (reportOf tasks) =
      List.zipWith CatalogTask.report tasks answers := by
  induction tasks generalizing answers with
  | nil =>
    obtain rfl := List.eq_nil_of_length_eq_zero h
    rfl
  | cons task rest ih =>
    cases answers with
    | nil => cases h
    | cons answer others =>
      have hothers := ih (Nat.succ.inj h)
      -- the other answers go by one index less when they are matched with the other tasks
      have hshift : (others.mapIdx fun i a => (i + 1, a)) =
          (others.mapIdx Prod.mk).map fun call => (call.1 + 1, call.2) :=
        List.ext_getElem (by simp) fun i hi hi' => by simp
      have hfirst : reportOf (task :: rest) (0, answer) = some (task.report answer) := rfl
      rw [List.mapIdx_cons, List.filterMap_cons_some hfirst, hshift, List.filterMap_map,
        List.zipWith_cons_cons, ← hothers]
      rfl

/-- Where a run of gathering is over, it has a collection, with the reports of all answers that were
received. -/
theorem exists_ofReports {turns : List Turn} {s : PoolState C CatalogTask Batch Collection}
    (hopen : ∀ events panic, w.opening events ≠ .broke panic)
    (h : (gatherPool w threads tasks).after? turns = some s)
    (hover : WorkerPool.isOver s = true) :
    ∃ c, WorkerPool.ending s = .complete c ∧
      c = .ofReports ((WorkerPool.receivedIn s.events).filterMap (reportOf tasks)) := by
  have hhonest := WorkerPool.honest_after? h
  obtain ⟨c, hend⟩ := WorkerPool.exists_complete hhonest hopen (by
    intro result task answer f hf
    cases hf)
  obtain ⟨hlistening, -, -⟩ := WorkerPool.finished_of_complete hover hend
  exact ⟨c, hend, eq_ofReports_of_folds (hlistening ▸ hhonest.receiver)⟩

/-- Where a run of gathering is over, it has a collection with one report for every task, each made
from an answer that calls for the task came to. -/
theorem exists_answers {turns : List Turn} {s : PoolState C CatalogTask Batch Collection}
    (hopen : ∀ events panic, w.opening events ≠ .broke panic)
    (h : (gatherPool w threads tasks).after? turns = some s)
    (hover : WorkerPool.isOver s = true) :
    ∃ c answers, WorkerPool.ending s = .complete c ∧ answers.length = tasks.length ∧
      (∀ i a, answers[i]? = some a → (i, a) ∈ WorkerPool.answersIn s.events) ∧
      c.batches.Perm ((List.zipWith CatalogTask.report tasks answers).filterMap reportedBatch?) ∧
      c.failures.Perm
        ((List.zipWith CatalogTask.report tasks answers).filterMap reportedFailure?) := by
  obtain ⟨c, hend, hreports⟩ := exists_ofReports hopen h hover
  obtain ⟨answers, hlen, hperm, hanswers⟩ := WorkerPool.answers_of_complete h hover hend
  -- the receiver saw the answers in another order than that of the tasks
  have hinOrder := hperm.filterMap (reportOf tasks)
  rw [gatherPool_keys] at hlen
  rw [filterMap_reportOf hlen] at hinOrder
  refine ⟨c, answers, hend, hlen, hanswers, ?_, ?_⟩
  · rw [hreports]
    exact hinOrder.filterMap reportedBatch?
  · rw [hreports]
    exact hinOrder.filterMap reportedFailure?

/-! ## Warehouses that always open a connection -/

/-- No connection is ever refused, and opening one never breaks off. -/
def Warehouse.AlwaysOpens (w : Warehouse C) : Prop :=
  ∀ events, ∃ c, w.opening events = .answered (.ok c)

theorem Warehouse.AlwaysOpens.opening_ne_broke (h : w.AlwaysOpens)
    (events : List (PoolEvent C Batch)) (panic : Panic) : w.opening events ≠ .broke panic := by
  intro hbroke
  obtain ⟨c, hc⟩ := h events
  cases hc.symm.trans hbroke

/-- Where every connection is opened, each answer for a task is what asking the task came to. -/
theorem Warehouse.AlwaysOpens.exists_asking (h : w.AlwaysOpens) {turns : List Turn}
    {s : PoolState C CatalogTask Batch Collection} {i : Nat} {task : CatalogTask}
    {answer : Answer Batch} (hs : (gatherPool w threads tasks).after? turns = some s)
    (htask : tasks[i]? = some task) (hanswer : (i, answer) ∈ WorkerPool.answersIn s.events) :
    ∃ events c, answer = (w.asking events c task).answer := by
  have hhistory := (WorkerPool.honest_after? hs).history
  cases WorkerPool.produced_of_mem_answersIn hhistory hanswer with
  | refused hrefused =>
    obtain ⟨-, earlier, -, hopen⟩ := hrefused
    obtain ⟨c, hc⟩ := h earlier
    cases hc.symm.trans hopen
  | asked hasked =>
    obtain ⟨-, -, c, task', earlier, -, htask', rfl, -⟩ := hasked
    obtain rfl : task = task' := Option.some.inj (htask.symm.trans htask')
    exact ⟨earlier, c, rfl⟩

/-! ## What a report says about its task -/

/-- Why a task has no batch: no connection, a failure, a call that broke off, or a batch whose rows
do not say which relations they are about. -/
inductive Cause {K R : Type} (p : WorkerPool C K Batch R) (events : List (PoolEvent C Batch))
    (i : Nat) : Failure → Prop where
  | refused {f : Failure} : p.Refused events i f → Cause p events i f
  | failed {f : Failure} : p.Asked events i (.answered (.error f)) → Cause p events i f
  | brokeOff {panic : Panic} : p.Asked events i (.broke panic) → Cause p events i panic.toFailure
  | rejected {b : Batch} {f : Failure} :
      p.Asked events i (.answered (.ok b)) → b.keys = .error f → Cause p events i f

/-- A report says what became of its task: a batch exactly if the question was put over an open
connection and answered by that batch, with key columns; or else a failure of the task, with its
label and the failure behind it. -/
structure ReportedAs {K R : Type} (p : WorkerPool C K Batch R) (events : List (PoolEvent C Batch))
    (i : Nat) (task : CatalogTask) (report : Answer Batch) : Prop where
  batch : ∀ b, report = .ok b ↔ p.Asked events i (.answered (.ok b)) ∧ b.HasKeyColumns
  failure : ∀ f, report = .error f → f.kind = .aggregationTask ∧
    ∃ cause, Cause p events i cause ∧ f.message = task.label ++ ": " ++ cause.display

section

variable {K R : Type} {p : WorkerPool C K Batch R} {s : PoolState C K Batch R} {i : Nat}

/-- Only a question that was answered by a batch comes to a batch. -/
theorem asked_of_produced {events : List (PoolEvent C Batch)} {b : Batch}
    (h : p.Produced events i (.ok b)) : p.Asked events i (.answered (.ok b)) := by
  generalize ha : Except.ok b = a at h
  cases h with
  | refused => cases ha
  | @asked outcome hasked =>
    cases outcome with
    | answered answer =>
      obtain rfl : Except.ok b = answer := ha
      exact hasked
    | broke panic => cases ha

/-- Behind a failure there is a refusal, a failure of the question, or a call that broke off. -/
theorem cause_of_produced {events : List (PoolEvent C Batch)} {f : Failure}
    (h : p.Produced events i (.error f)) : Cause p events i f := by
  generalize ha : Except.error f = a at h
  cases h with
  | refused hrefused => exact Except.error.inj ha ▸ .refused hrefused
  | @asked outcome hasked =>
    cases outcome with
    | answered answer =>
      obtain rfl : Except.error f = answer := ha
      exact .failed hasked
    | broke panic => exact Except.error.inj ha ▸ .brokeOff hasked

/-- The report that is made from a task's answer says what became of the task. -/
theorem reportedAs_report {turns : List Turn} {answer : Answer Batch} (task : CatalogTask)
    (h : p.after? turns = some s) (hanswer : (i, answer) ∈ WorkerPool.answersIn s.events) :
    ReportedAs p s.events i task (task.report answer) := by
  have honce := WorkerPool.deliversOnce_after? h
  have hproduced :=
    WorkerPool.produced_of_mem_answersIn (WorkerPool.honest_after? h).history hanswer
  constructor
  · intro b
    rw [report_eq_ok_iff]
    constructor
    · rintro ⟨rfl, hcolumns⟩
      exact ⟨asked_of_produced hproduced, hcolumns⟩
    · -- two calls for one index would have left two answers
      rintro ⟨hasked, hcolumns⟩
      exact ⟨honce.answer_unique hanswer hasked.mem_answersIn, hcolumns⟩
  · intro f hf
    obtain ⟨cause, rfl, rfl | ⟨b, rfl, hkeys⟩⟩ := cause_of_report hf
    · exact ⟨rfl, cause, cause_of_produced hproduced, rfl⟩
    · exact ⟨rfl, cause, .rejected (asked_of_produced hproduced) hkeys, rfl⟩

end

/-! ## The theorem -/

/-- A collection accounts for tasks: there is one report for each of them, which says what became of
it, and the collection has the batches and the failures of these reports and nothing else. The rows
all say which relations they are about. -/
structure AccountsFor (p : WorkerPool C CatalogTask Batch Collection)
    (s : PoolState C CatalogTask Batch Collection) (c : Collection) : Prop where
  reports : ∃ reports : List (Answer Batch), reports.length = p.keys.length ∧
    (∀ i task report, p.keys[i]? = some task → reports[i]? = some report →
      ReportedAs p s.events i task report) ∧
    c.batches.Perm (reports.filterMap reportedBatch?) ∧
      c.failures.Perm (reports.filterMap reportedFailure?)
  total : c.batches.length + c.failures.length = p.keys.length
  keys : ∃ keys, c.keys = .ok keys ∧ keys.length = c.rowCount

theorem mem_filterMap_reportedBatch? {reports : List (Answer Batch)} {b : Batch} :
    b ∈ reports.filterMap reportedBatch? ↔ .ok b ∈ reports := by
  rw [List.mem_filterMap]
  constructor
  · rintro ⟨report, hmem, hb⟩
    cases report with
    | ok b' => exact Option.some.inj hb ▸ hmem
    | error f => cases hb
  · intro hmem
    exact ⟨.ok b, hmem, rfl⟩

/-- The batches that were reported say which relations their rows are about. -/
theorem keyed_of_reports {answers : List (Answer Batch)} {c : Collection}
    (h : c.batches.Perm
      ((List.zipWith CatalogTask.report tasks answers).filterMap reportedBatch?)) :
    c.Keyed := by
  intro b hb
  have hmem := mem_filterMap_reportedBatch?.1 (h.mem_iff.1 hb)
  obtain ⟨i, hi⟩ := List.mem_iff_getElem?.1 hmem
  obtain ⟨task, answer, -, -, hreport⟩ := List.getElem?_zipWith_eq_some.1 hi
  exact (report_eq_ok_iff.1 hreport).2

/-- Reports that are made from the answers of a run say what became of their tasks. -/
theorem reportedAs_of_answers {turns : List Turn}
    {s : PoolState C CatalogTask Batch Collection} {answers : List (Answer Batch)} {i : Nat}
    {task : CatalogTask} {report : Answer Batch}
    (h : (gatherPool w threads tasks).after? turns = some s)
    (hanswers : ∀ i a, answers[i]? = some a → (i, a) ∈ WorkerPool.answersIn s.events)
    (htask : tasks[i]? = some task)
    (hreport : (List.zipWith CatalogTask.report tasks answers)[i]? = some report) :
    ReportedAs (gatherPool w threads tasks) s.events i task report := by
  obtain ⟨task', answer, htask', hanswer, rfl⟩ := List.getElem?_zipWith_eq_some.1 hreport
  obtain rfl : task' = task := Option.some.inj (htask'.symm.trans htask)
  exact reportedAs_report task' h (hanswers i answer hanswer)

/-- **Every task is accounted for.** If opening a connection never breaks off, then whatever calls
fail or break off, and in whatever order workers and receiver take their turns, gathering ends with
a collection to which each planned task contributed its batch or a failure. -/
theorem every_task_is_accounted_for (w : Warehouse C) (threads : Nat) (relations : List Relation)
    (schemas : List Schema) (hopen : ∀ events panic, w.opening events ≠ .broke panic) :
    (gatherPool w threads (planTasks relations schemas)).AlwaysEnds fun s =>
      ∃ c, WorkerPool.ending s = .complete c ∧
        AccountsFor (gatherPool w threads (planTasks relations schemas)) s c := by
  refine WorkerPool.alwaysEnds_of_isOver fun turns s h hover => ?_
  obtain ⟨c, answers, hend, hlen, hanswers, hbatches, hfailures⟩ := exists_answers hopen h hover
  have hlenReports :
      (List.zipWith CatalogTask.report (planTasks relations schemas) answers).length =
        (planTasks relations schemas).length := by
    rw [List.length_zipWith, hlen, Nat.min_self]
  have hkeyed := keyed_of_reports hbatches
  refine ⟨c, hend, ?_, ?_, ?_⟩
  · exact ⟨_, hlenReports, fun i task report => reportedAs_of_answers h hanswers, hbatches,
      hfailures⟩
  · rw [hbatches.length_eq, hfailures.length_eq, length_batches_add_failures, hlenReports,
      gatherPool_keys]
  · refine ⟨_, Collection.keys_eq hkeyed, ?_⟩
    rw [List.length_map, Collection.length_rowList]

/-- A warehouse that sometimes refuses a connection, and of whose schemas one breaks off, one fails,
one answers without key columns and the others answer. -/
def Warehouse.unsteady : Warehouse Unit where
  opening events :=
    if events.length % 3 = 1 then .answered (.error { kind := .driver, message := "refused" })
    else .answered (.ok ())
  asking _ _
    | .relation r => .answered (.ok (.ofRelations [r]))
    | .schema s relations =>
      if s.schema = "gone" then .broke ⟨some "lost"⟩
      else if s.schema = "locked" then .answered (.error { kind := .driver, message := "denied" })
      else if s.schema = "odd" then .answered (.ok ⟨0, [], by simp⟩)
      else .answered (.ok (.ofRelations relations))

/-- Each of the schemas of an unsteady warehouse is accounted for. -/
theorem every_task_is_accounted_for_unsteady :
    (∀ events panic, Warehouse.unsteady.opening events ≠ .broke panic) ∧
      (gatherPool .unsteady 2 (planTasks [⟨"db", "s", "t"⟩, ⟨"DB", "S", "T"⟩]
          [⟨"db", "gone"⟩, ⟨"db", "locked"⟩, ⟨"db", "odd"⟩, ⟨"db", "s"⟩, ⟨"DB", "S"⟩])).AlwaysEnds
        fun s => ∃ c, WorkerPool.ending s = .complete c ∧
          AccountsFor (gatherPool .unsteady 2 (planTasks [⟨"db", "s", "t"⟩, ⟨"DB", "S", "T"⟩]
            [⟨"db", "gone"⟩, ⟨"db", "locked"⟩, ⟨"db", "odd"⟩, ⟨"db", "s"⟩, ⟨"DB", "S"⟩])) s c := by
  have hopen : ∀ events panic, Warehouse.unsteady.opening events ≠ .broke panic := by
    intro events panic h
    simp only [Warehouse.unsteady] at h
    split at h <;> cases h
  exact ⟨hopen, every_task_is_accounted_for .unsteady 2 _ _ hopen⟩

end Lakehouse
