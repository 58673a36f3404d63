import Lakehouse.Proofs.Metadata.Account
import Lakehouse.Proofs.Metadata.Plan
import Lakehouse.Proofs.Text.LowerCase

/-!
# Which rows are gathered

A warehouse holds rows, and answers every task with the rows that the task asks about. This module
says which of the rows a collection has in the end, up to their order.

- `Warehouse.Holds`: the warehouse always answers, and with the rows it holds.
- `exists_collection`: gathering ends with the rows that the tasks cover together.
- **`gathers_planned_rows`**: these are the rows about planned relations. They are all rows of the
  schemas in use exactly if every row of a schema that fans out is about a declared relation.
- **`gathers_wanted_rows`**: of declared relations that are wanted every row is left, and no other.
- `undeclared_row_is_missed`: in a schema that fans out a row about an undeclared relation is
  missed.
-/

namespace Lakehouse

variable {C : Type} {w : Warehouse C} {rows : List Row}

/-- Every call on the warehouse succeeds. A task is answered by the rows about the relations it asks
about, in some order, with columns that say so. -/
structure Warehouse.Holds (w : Warehouse C) (rows : List Row) : Prop where
  opening : ∀ events, ∃ c, w.opening events = .answered (.ok c)
  asking : ∀ events c task, ∃ b, w.asking events c task = .answered (.ok b) ∧ b.HasKeyColumns ∧
    b.rowList.Perm (rows.filter fun row => task.covers row.key)

/-! ## The rows of all tasks -/

/-- The answer to a task is a batch of the rows that it covers. -/
def AnsweredBy (rows : List Row) (task : CatalogTask) (answer : Answer Batch) : Prop :=
  ∃ b, answer = .ok b ∧ b.HasKeyColumns ∧
    b.rowList.Perm (rows.filter fun row => task.covers row.key)

/-- In a run every answer is one by the rows of the warehouse. -/
theorem Warehouse.Holds.answeredBy {threads i : Nat} {tasks : List CatalogTask} {turns : List Turn}
    {s : PoolState C CatalogTask Batch Collection} {task : CatalogTask} {answer : Answer Batch}
    (h : w.Holds rows) (hs : (gatherPool w threads tasks).after? turns = some s)
    (htask : tasks[i]? = some task) (hanswer : (i, answer) ∈ WorkerPool.answersIn s.events) :
    AnsweredBy rows task answer := by
  have hopens : w.AlwaysOpens := h.opening
  obtain ⟨events, c, rfl⟩ := hopens.exists_asking hs htask hanswer
  obtain ⟨b, hb, hcolumns, hrows⟩ := h.asking events c task
  rw [hb]
  exact ⟨b, rfl, hcolumns, hrows⟩

/-- When all answers are batches of the covered rows, no report is a failure, and the reported
batches have the covered rows. -/
theorem reports_of_answeredBy {tasks : List CatalogTask} {answers : List (Answer Batch)}
    (h : List.Forall₂ (AnsweredBy rows) tasks answers) :
    (List.zipWith CatalogTask.report tasks answers).filterMap reportedFailure? = [] ∧
      (((List.zipWith CatalogTask.report tasks answers).filterMap reportedBatch?).flatMap
        Batch.rowList).Perm
          (tasks.flatMap fun task => rows.filter fun row => task.covers row.key) := by
  induction h with
  | nil => exact ⟨rfl, .refl _⟩
  | @cons task answer tasks answers hanswer _ ih =>
    obtain ⟨b, rfl, hcolumns, hrows⟩ := hanswer
    obtain ⟨hfailures, hrest⟩ := ih
    have hreport : task.report (.ok b) = .ok b := report_eq_ok_iff.2 ⟨rfl, hcolumns⟩
    rw [List.zipWith_cons_cons, hreport, List.filterMap_cons_none (by rfl),
      List.filterMap_cons_some (by rfl), List.flatMap_cons, List.flatMap_cons]
    exact ⟨hfailures, hrows.append hrest⟩

/-- Gathering from a warehouse ends without failures, and with the rows that its tasks cover. -/
theorem exists_collection {threads : Nat} {tasks : List CatalogTask} {turns : List Turn}
    {s : PoolState C CatalogTask Batch Collection} (h : w.Holds rows)
    (hs : (gatherPool w threads tasks).after? turns = some s) (hover : WorkerPool.isOver s = true) :
    ∃ c, WorkerPool.ending s = .complete c ∧ c.failures = [] ∧ c.Keyed ∧
      c.rowList.Perm (tasks.flatMap fun task => rows.filter fun row => task.covers row.key) := by
  have hopens : w.AlwaysOpens := h.opening
  obtain ⟨c, answers, hend, hlen, hanswers, hbatches, hfailures⟩ :=
    exists_answers hopens.opening_ne_broke hs hover
  have hanswered : List.Forall₂ (AnsweredBy rows) tasks answers := by
    refine List.forall₂_iff_get.2 ⟨hlen.symm, fun i hi hi' => ?_⟩
    refine h.answeredBy hs (List.getElem?_eq_getElem hi) (hanswers i _ ?_)
    exact List.getElem?_eq_getElem hi'
  -- the batches come in the order of arrival, which rows up to order do not see
  obtain ⟨hnone, hrows⟩ := reports_of_answeredBy hanswered
  refine ⟨c, hend, ?_, keyed_of_reports hbatches, ?_⟩
  · rw [hnone] at hfailures
    exact hfailures.eq_nil
  · exact (hbatches.flatMap_right _).trans hrows

/-! ## The rows of a plan -/

/-- The rows about planned relations are all rows of the schemas in use exactly if those of a schema
that fans out are about declared relations. -/
theorem filter_planned_perm_iff {relations : List Relation} {schemas : List Schema} :
    (rows.filter fun row => Planned relations schemas row.key).Perm
        (rows.filter fun row => InUse schemas row.key) ↔
      ∀ row ∈ rows, InUse schemas row.key → FansOut relations row.key.schemaKey →
        Declared relations row.key := by
  constructor
  · intro hperm row hrow huse hfans
    have hmem : row ∈ rows.filter fun row => InUse schemas row.key :=
      List.mem_filter.2 ⟨hrow, decide_eq_true huse⟩
    obtain ⟨-, hplanned⟩ := List.mem_filter.1 (hperm.mem_iff.2 hmem)
    exact (of_decide_eq_true hplanned).2 hfans
  · intro h
    refine .of_eq (List.filter_congr fun row hrow => decide_eq_decide.2 ?_)
    constructor
    · rintro ⟨huse, -⟩
      exact huse
    · intro huse
      exact ⟨huse, h row hrow huse⟩

/-- Gathering ends with the rows about planned relations. -/
theorem exists_collection_of_plan {threads : Nat} {relations : List Relation}
    {schemas : List Schema} {turns : List Turn} {s : PoolState C CatalogTask Batch Collection}
    (h : w.Holds rows)
    (hs : (gatherPool w threads (planTasks relations schemas)).after? turns = some s)
    (hover : WorkerPool.isOver s = true) :
    ∃ c, WorkerPool.ending s = .complete c ∧ c.failures = [] ∧ c.Keyed ∧
      c.rowList.Perm (rows.filter fun row => Planned relations schemas row.key) := by
  obtain ⟨c, hend, hfailures, hkeyed, hrows⟩ := exists_collection h hs hover
  have hplan := flatMap_covers_perm Row.key rows (countP_planTasks relations schemas)
  exact ⟨c, hend, hfailures, hkeyed, hrows.trans hplan⟩

/-- Gathering for some relations only ends with the rows about those that are wanted and planned. -/
theorem exists_collection_of_wanted {threads : Nat} {relations only : List Relation}
    {schemas : List Schema} {turns : List Turn} {s : PoolState C CatalogTask Batch Collection}
    (h : w.Holds rows)
    (hs : (gatherPool w threads (planTasks relations schemas)).after? turns = some s)
    (hover : WorkerPool.isOver s = true) :
    ∃ c, (WorkerPool.ending s).narrow (fun c => c.retain (only.map Relation.key)) = .complete c ∧
      c.failures = [] ∧
      c.rowList.Perm (rows.filter fun row =>
        row.key ∈ only.map Relation.key ∧ Planned relations schemas row.key) := by
  obtain ⟨c, hend, hfailures, hkeyed, hrows⟩ := exists_collection_of_plan h hs hover
  obtain ⟨left, hleft, -, hkept, hrowsLeft⟩ := c.retain_eq (only.map Relation.key) hkeyed
  refine ⟨left, ?_, hkept.trans hfailures, ?_⟩
  · rw [hend, Ending.narrow, hleft]
  · have hwanted := hrows.filter fun row => (only.map Relation.key).contains row.key
    rw [List.filter_filter] at hwanted
    rw [hrowsLeft]
    refine hwanted.trans (.of_eq (List.filter_congr fun row _ => ?_))
    rw [Bool.decide_and, List.contains_eq_mem]

/-! ## A plain warehouse -/

/-- A warehouse with some relations. It answers with a row for each one that a task asks about. -/
def Warehouse.ofRelations (relations : List Relation) : Warehouse Unit where
  opening _ := .answered (.ok ())
  asking _ _ task := .answered (.ok (.ofRelations (relations.filter fun r => task.covers r.key)))

theorem Warehouse.holds_ofRelations (relations : List Relation) :
    (Warehouse.ofRelations relations).Holds (relations.map Row.ofRelation) where
  opening _ := ⟨(), rfl⟩
  asking _ _ task := by
    refine ⟨_, rfl, Batch.hasKeyColumns_ofRelations _, .of_eq ?_⟩
    rw [Batch.rowList_ofRelations, List.filter_map]
    rfl

/-- The relations `a`, `aa`, `aaa` and so on, in one schema. -/
def crowd (n : Nat) : List Relation :=
  (List.range n).map fun i => ⟨"db", "s", String.ofList (List.replicate (i + 1) 'a')⟩

/-- A relation in the same schema. -/
def stray : Relation := ⟨"db", "s", "b"⟩

/-- The names in a crowd are in lower case. -/
theorem lower_crowd (i : Nat) : Text.lower (String.ofList (List.replicate (i + 1) 'a')) =
    String.ofList (List.replicate (i + 1) 'a') := by
  have hascii : ∀ c ∈ (String.ofList (List.replicate (i + 1) 'a')).toList, c.toNat < 0x80 := by
    intro c hc
    rw [String.toList_ofList] at hc
    obtain ⟨-, rfl⟩ := List.mem_replicate.1 hc
    decide
  rw [Text.lower_of_ascii hascii, String.toList_ofList, List.map_replicate]
  rfl

theorem map_key_crowd (n : Nat) : (crowd n).map Relation.key =
    (List.range n).map fun i => ⟨"db", "s", String.ofList (List.replicate (i + 1) 'a')⟩ := by
  rw [crowd, List.map_map]
  refine List.map_congr_left fun i _ => ?_
  have hdb : Text.lower "db" = "db" := by decide
  have hs : Text.lower "s" = "s" := by decide
  show RelationKey.of _ _ _ = _
  rw [RelationKey.of, lower_crowd, hdb, hs]

theorem declared_crowd {n i : Nat} (h : i < n) :
    Declared (crowd n) ⟨"db", "s", String.ofList (List.replicate (i + 1) 'a')⟩ := by
  rw [Declared, map_key_crowd]
  exact List.mem_map.2 ⟨i, List.mem_range.2 h, rfl⟩

theorem nodup_map_key_crowd (n : Nat) : ((crowd n).map Relation.key).Nodup := by
  rw [map_key_crowd]
  refine List.nodup_range.map fun i j hij => ?_
  have hnames := String.ofList_injective (congrArg RelationKey.identifier hij)
  have hlen := congrArg List.length hnames
  rw [List.length_replicate, List.length_replicate] at hlen
  omega

/-- A schema with a large enough crowd fans out. -/
theorem fansOut_crowd {n : Nat} (h : mostRelationsPerSchema < n) :
    FansOut (crowd n) ⟨"db", "s"⟩ := by
  have hall : ((crowd n).map Relation.key).toFinset.filter (fun r => r.schemaKey = ⟨"db", "s"⟩) =
      ((crowd n).map Relation.key).toFinset := by
    refine Finset.filter_true_of_mem fun r hr => ?_
    rw [List.mem_toFinset, map_key_crowd] at hr
    obtain ⟨i, -, rfl⟩ := List.mem_map.1 hr
    rfl
  rw [FansOut, hall, List.toFinset_card_of_nodup (nodup_map_key_crowd n), List.length_map, crowd,
    List.length_map, List.length_range]
  exact h

theorem not_declared_stray (n : Nat) : ¬ Declared (crowd n) stray.key := by
  intro h
  rw [Declared, map_key_crowd] at h
  obtain ⟨i, -, hi⟩ := List.mem_map.1 h
  have hname : String.ofList (List.replicate (i + 1) 'a') = Text.lower "b" :=
    congrArg RelationKey.identifier hi
  have hlower : Text.lower "b" = String.ofList ['b'] := by decide
  have hlist := String.ofList_injective (hname.trans hlower)
  rw [List.replicate_succ] at hlist
  cases hlist

/-- A warehouse with more relations in a schema than are asked for at once, and with another one. -/
def crowdedWarehouse : Warehouse Unit :=
  .ofRelations (stray :: crowd 101)

/-- What is in the crowded warehouse. -/
def crowdedRows : List Row :=
  (stray :: crowd 101).map Row.ofRelation

theorem holds_crowded : crowdedWarehouse.Holds crowdedRows :=
  Warehouse.holds_ofRelations _

/-! ## The theorems -/

/-- **Gathering finds the rows about planned relations**, each once. Whether a schema is asked for
as a whole or relation by relation makes no difference exactly if, in a schema that fans out, there
are only rows about declared relations. -/
theorem gathers_planned_rows (w : Warehouse C) (rows : List Row) (h : w.Holds rows) (threads : Nat)
    (relations : List Relation) (schemas : List Schema) :
    (gatherPool w threads (planTasks relations schemas)).AlwaysEnds fun s =>
      ∃ c, WorkerPool.ending s = .complete c ∧ c.failures = [] ∧
        c.rowList.Perm (rows.filter fun row => Planned relations schemas row.key) ∧
        (c.rowList.Perm (rows.filter fun row => InUse schemas row.key) ↔
          ∀ row ∈ rows, InUse schemas row.key → FansOut relations row.key.schemaKey →
            Declared relations row.key) := by
  refine WorkerPool.alwaysEnds_of_isOver fun turns s hs hover => ?_
  obtain ⟨c, hend, hfailures, -, hrows⟩ := exists_collection_of_plan h hs hover
  refine ⟨c, hend, hfailures, hrows, ?_⟩
  rw [← filter_planned_perm_iff]
  exact ⟨hrows.symm.trans, hrows.trans⟩

/-- A crowd that is declared and a stray relation that is not, with the schema named twice. -/
theorem gathers_planned_rows_of_crowd : crowdedWarehouse.Holds crowdedRows ∧
    (gatherPool crowdedWarehouse 3 (planTasks (crowd 101) [⟨"db", "s"⟩, ⟨"DB", "S"⟩])).AlwaysEnds
      fun s => ∃ c, WorkerPool.ending s = .complete c ∧ c.failures = [] ∧
        c.rowList.Perm (crowdedRows.filter fun row =>
          Planned (crowd 101) [⟨"db", "s"⟩, ⟨"DB", "S"⟩] row.key) ∧
        (c.rowList.Perm (crowdedRows.filter fun row => InUse [⟨"db", "s"⟩, ⟨"DB", "S"⟩] row.key) ↔
          ∀ row ∈ crowdedRows, InUse [⟨"db", "s"⟩, ⟨"DB", "S"⟩] row.key →
            FansOut (crowd 101) row.key.schemaKey → Declared (crowd 101) row.key) :=
  ⟨holds_crowded, gathers_planned_rows crowdedWarehouse crowdedRows holds_crowded 3 (crowd 101)
    [⟨"db", "s"⟩, ⟨"DB", "S"⟩]⟩

/-- In a schema that fans out a row about an undeclared relation is missed by every run. -/
theorem undeclared_row_is_missed {relations : List Relation} {schemas : List Schema} {row : Row}
    (threads : Nat) (h : w.Holds rows) (hrow : row ∈ rows) (huse : InUse schemas row.key)
    (hfans : FansOut relations row.key.schemaKey) (hnot : ¬ Declared relations row.key) :
    (gatherPool w threads (planTasks relations schemas)).AlwaysEnds fun s =>
      ¬ ∃ c, WorkerPool.ending s = .complete c ∧
        c.rowList.Perm (rows.filter fun row => InUse schemas row.key) := by
  refine WorkerPool.alwaysEnds_of_isOver fun turns s hs hover => ?_
  rintro ⟨c, hend, hall⟩
  obtain ⟨c', hend', -, -, hrows⟩ := exists_collection_of_plan h hs hover
  obtain rfl : c = c' := Ending.complete.inj (hend.symm.trans hend')
  exact hnot (filter_planned_perm_iff.1 (hrows.symm.trans hall) row hrow huse hfans)

/-- The stray relation is in a schema in use, and yet it is not found. -/
theorem crowd_hides_stray : crowdedWarehouse.Holds crowdedRows ∧
    ¬ (gatherPool crowdedWarehouse 1 (planTasks (crowd 101) [⟨"db", "s"⟩])).AlwaysEnds fun s =>
      ∃ c, WorkerPool.ending s = .complete c ∧
        c.rowList.Perm (crowdedRows.filter fun row => InUse [⟨"db", "s"⟩] row.key) := by
  refine ⟨holds_crowded, ?_⟩
  have hrow : Row.ofRelation stray ∈ crowdedRows := List.mem_cons_self
  have hschema : stray.key.schemaKey = ⟨"db", "s"⟩ := by decide
  have huse : InUse [⟨"db", "s"⟩] stray.key := by decide
  have hfans : FansOut (crowd 101) stray.key.schemaKey := by
    rw [hschema]
    exact fansOut_crowd (by decide)
  have hmissed := undeclared_row_is_missed 1 holds_crowded hrow huse hfans (not_declared_stray 101)
  exact fun hall => hmissed.run hall.run

/-- **Gathering for some relations is exact** when they are declared: every row about one that is in
a schema in use is left, once, whether or not that schema fans out and however often the relation or
the schema is named. -/
theorem gathers_wanted_rows (w : Warehouse C) (rows : List Row) (h : w.Holds rows) (threads : Nat)
    (relations : List Relation) (schemas : List Schema) (only : List Relation)
    (honly : ∀ r ∈ only, Declared relations r.key) :
    (gatherPool w threads (planTasks relations schemas)).AlwaysEnds fun s =>
      ∃ c, (WorkerPool.ending s).narrow (fun c => c.retain (only.map Relation.key)) = .complete c ∧
        c.failures = [] ∧
        c.rowList.Perm (rows.filter fun row =>
          row.key ∈ only.map Relation.key ∧ InUse schemas row.key) := by
  refine WorkerPool.alwaysEnds_of_isOver fun turns s hs hover => ?_
  obtain ⟨c, hend, hfailures, hrows⟩ := exists_collection_of_wanted h hs hover
  refine ⟨c, hend, hfailures, hrows.trans (.of_eq (List.filter_congr fun row _ => ?_))⟩
  rw [decide_eq_decide]
  constructor
  · rintro ⟨hwanted, huse, -⟩
    exact ⟨hwanted, huse⟩
  · -- what is wanted is declared, so that it is planned whether or not its schema fans out
    rintro ⟨hwanted, huse⟩
    obtain ⟨r, hr, hkey⟩ := List.mem_map.1 hwanted
    exact ⟨hwanted, huse, fun _ => hkey ▸ honly r hr⟩

/-- One relation of a crowd, wanted twice and in different case. -/
theorem gathers_wanted_rows_of_crowd : crowdedWarehouse.Holds crowdedRows ∧
    (∀ r ∈ [⟨"Db", "S", "A"⟩, ⟨"db", "s", "a"⟩], Declared (crowd 101) (Relation.key r)) ∧
    (gatherPool crowdedWarehouse 3 (planTasks (crowd 101) [⟨"db", "s"⟩, ⟨"DB", "S"⟩])).AlwaysEnds
      fun s => ∃ c, (WorkerPool.ending s).narrow (fun c =>
          c.retain ([⟨"Db", "S", "A"⟩, ⟨"db", "s", "a"⟩].map Relation.key)) = .complete c ∧
        c.failures = [] ∧
        c.rowList.Perm (crowdedRows.filter fun row =>
          row.key ∈ [⟨"Db", "S", "A"⟩, ⟨"db", "s", "a"⟩].map Relation.key ∧
            InUse [⟨"db", "s"⟩, ⟨"DB", "S"⟩] row.key) := by
  have hkey : ∀ r ∈ [⟨"Db", "S", "A"⟩, ⟨"db", "s", "a"⟩],
      Relation.key r = ⟨"db", "s", String.ofList (List.replicate 1 'a')⟩ := by
    decide
  have honly : ∀ r ∈ [⟨"Db", "S", "A"⟩, ⟨"db", "s", "a"⟩],
      Declared (crowd 101) (Relation.key r) := by
    intro r hr
    rw [hkey r hr]
    exact declared_crowd (by decide)
  exact ⟨holds_crowded, honly, gathers_wanted_rows crowdedWarehouse crowdedRows holds_crowded 3
    (crowd 101) [⟨"db", "s"⟩, ⟨"DB", "S"⟩] _ honly⟩

end Lakehouse
