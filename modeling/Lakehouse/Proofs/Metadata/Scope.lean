import Lakehouse.Proofs.Metadata.Plan

/-!
# How a plan divides its scope

The scope of a plan is what is declared in the schemas in use. A plan goes through these schemas in
the order in which they are first named and makes one group of tasks for each: a task for the schema
with all that is declared in it, or, where that is too much for one question, a task for each
relation.

- `distinctBy_eq_eraseDupsBy`: removal of repeats is the one of the list library, and may be done
  before or after relations are sorted out by schema (`distinctBy_filter`).
- `CatalogTask.relations`, `CatalogTask.schemaKey?`: what a task names.
- `flatMap_relations_planTasks`, `filterMap_schemaKey?_planTasks`: what all tasks of a plan name
  together, in order.
- `countP_names_planTasks`: a relation is named by one task if it is declared and in use, and else
  by none.
- **`plan_partitions_scope`**: the groups, and that nothing is named twice or left out.
-/

namespace Lakehouse

/-! ## Removal of repeats -/

section

variable {α κ : Type} [DecidableEq κ] {key : α → κ}

theorem distinctFrom_eq_eraseDupsBy (seen : List κ) (as : List α) :
    distinctFrom key seen as =
      (as.filter fun a => key a ∉ seen).eraseDupsBy fun a b => key a == key b := by
  induction as generalizing seen with
  | nil => rfl
  | cons a rest ih =>
    rw [distinctFrom, List.filter_cons]
    by_cases hseen : key a ∈ seen
    · rw [if_pos hseen, if_neg (by simpa using hseen), ih]
    · rw [if_neg hseen, if_pos (by simpa using hseen), List.eraseDupsBy_cons, ih,
        List.filter_filter]
      -- the library drops what shares a key with `a` at once, and not when it comes to it
      congr 3
      funext b
      simp [List.mem_cons, not_or]

/-- Of elements with one key the first is kept, as the list library does it. -/
theorem distinctBy_eq_eraseDupsBy (as : List α) :
    distinctBy key as = as.eraseDupsBy fun a b => key a == key b := by
  rw [distinctBy, distinctFrom_eq_eraseDupsBy]
  congr 1
  exact List.filter_eq_self.2 fun a _ => by simp

/-- Keys that do not occur may count as taken. -/
theorem distinctFrom_congr {seen seen' : List κ} {as : List α}
    (h : ∀ a ∈ as, (key a ∈ seen ↔ key a ∈ seen')) :
    distinctFrom key seen as = distinctFrom key seen' as := by
  rw [distinctFrom_eq_eraseDupsBy, distinctFrom_eq_eraseDupsBy]
  congr 1
  exact List.filter_congr fun a ha => by simp [h a ha]

/-- What is told by the key alone may be sorted out before or after repeats are removed. -/
theorem distinctFrom_filter {p : α → Bool} (h : ∀ a b, key a = key b → p a = p b) (seen : List κ)
    (as : List α) :
    distinctFrom key seen (as.filter p) = (distinctFrom key seen as).filter p := by
  induction as generalizing seen with
  | nil => rfl
  | cons a rest ih =>
    rw [distinctFrom, List.filter_cons]
    by_cases hp : p a = true
    · rw [if_pos hp, distinctFrom]
      by_cases hseen : key a ∈ seen
      · rw [if_pos hseen, if_pos hseen, ih]
      · rw [if_neg hseen, if_neg hseen, ih, List.filter_cons, if_pos hp]
    · rw [if_neg hp]
      by_cases hseen : key a ∈ seen
      · rw [if_pos hseen, ih]
      · rw [if_neg hseen, List.filter_cons, if_neg hp, ← ih]
        -- none of those that are left has the key of `a`
        refine distinctFrom_congr fun b hb => ?_
        have hne : key b ≠ key a := fun heq => hp (h b a heq ▸ (List.mem_filter.1 hb).2)
        rw [List.mem_cons, or_iff_right hne]

theorem distinctBy_filter {p : α → Bool} (h : ∀ a b, key a = key b → p a = p b) (as : List α) :
    distinctBy key (as.filter p) = (distinctBy key as).filter p :=
  distinctFrom_filter h [] as

end

/-! ## What tasks name -/

/-- The relations that a task names. -/
def CatalogTask.relations : CatalogTask → List Relation
  | schema _ relations => relations
  | relation r => [r]

/-- The schema that a task asks for as a whole. -/
def CatalogTask.schemaKey? : CatalogTask → Option SchemaKey
  | schema s _ => some s.key
  | relation _ => none

/-- The task names the relation of that key. -/
def CatalogTask.Names (task : CatalogTask) (k : RelationKey) : Prop :=
  k ∈ task.relations.map Relation.key

instance (task : CatalogTask) (k : RelationKey) : Decidable (task.Names k) :=
  inferInstanceAs (Decidable (_ ∈ _))

theorem CatalogTask.names_relation {r : Relation} {k : RelationKey} :
    (relation r).Names k ↔ k = r.key :=
  List.mem_singleton

variable {relations : List Relation} {schemas : List Schema}

/-- The relations with a schema key, without repeats. -/
theorem declaredIn_eq_eraseDupsBy (relations : List Relation) (k : SchemaKey) :
    declaredIn relations k = (relations.filter fun r => r.schemaKey == k).eraseDupsBy
      fun q r => q.key == r.key := by
  rw [← distinctBy_eq_eraseDupsBy, distinctBy_filter, declaredIn]
  intro q r hkey
  have hschema : q.schemaKey = r.schemaKey := congrArg RelationKey.schemaKey hkey
  rw [hschema]

/-- The tasks for a schema name what is declared in it, in order. -/
theorem flatMap_relations_schemaTasks (s : Schema) (declared : List Relation) :
    (schemaTasks s declared).flatMap CatalogTask.relations = declared := by
  unfold schemaTasks
  split
  · rw [List.flatMap_map]
    exact List.flatMap_singleton' declared
  · exact List.append_nil declared

/-- All tasks of a plan together name what is declared in the schemas in use, schema by schema. -/
theorem flatMap_relations_planTasks (relations : List Relation) (schemas : List Schema) :
    (planTasks relations schemas).flatMap CatalogTask.relations =
      (distinctBy Schema.key schemas).flatMap fun s => declaredIn relations s.key := by
  rw [planTasks_eq, List.flatMap_assoc]
  exact List.flatMap_congr fun s _ => flatMap_relations_schemaTasks s _

theorem filterMap_schemaKey?_schemaTasks (s : Schema) (declared : List Relation) :
    (schemaTasks s declared).filterMap CatalogTask.schemaKey? =
      if declared.length ≤ mostRelationsPerSchema then [s.key] else [] := by
  unfold schemaTasks
  split
  · next hmany =>
    rw [if_neg (Nat.not_le.2 hmany), List.filterMap_map]
    exact List.filterMap_eq_nil_iff.2 fun r _ => rfl
  · next hfew =>
    rw [if_pos (Nat.not_lt.1 hfew)]
    rfl

/-- The schemas that are asked for as a whole are those that do not fan out, in order. -/
theorem filterMap_schemaKey?_planTasks (relations : List Relation) (schemas : List Schema) :
    (planTasks relations schemas).filterMap CatalogTask.schemaKey? =
      ((distinctBy Schema.key schemas).filter fun s =>
        (declaredIn relations s.key).length ≤ mostRelationsPerSchema).map Schema.key := by
  rw [planTasks_eq]
  induction distinctBy Schema.key schemas with
  | nil => rfl
  | cons s rest ih =>
    rw [List.flatMap_cons, List.filterMap_append, ih, filterMap_schemaKey?_schemaTasks,
      List.filter_cons]
    by_cases hfew : (declaredIn relations s.key).length ≤ mostRelationsPerSchema
    · rw [if_pos hfew, if_pos (decide_eq_true hfew)]
      rfl
    · rw [if_neg hfew, if_neg (by simpa using hfew)]
      rfl

/-! ## Counting names -/

/-- Of the tasks for a schema one names a relation that is declared in it, and none any other. -/
theorem countP_names_schemaTasks (s : Schema) (k : RelationKey) :
    (schemaTasks s (declaredIn relations s.key)).countP (fun task => task.Names k) =
      if Declared relations k ∧ k.schemaKey = s.key then 1 else 0 := by
  unfold schemaTasks
  split
  · -- one task for each declared relation, of which at most one has the key
    have hcount := countP_key (nodup_map_declaredIn relations s.key) k
    rw [List.countP_map]
    refine (List.countP_congr fun r _ => ?_).trans
      (hcount.trans (if_congr mem_map_declaredIn rfl rfl))
    show decide ((CatalogTask.relation r).Names k) = true ↔ (k == r.key) = true
    rw [decide_eq_true_iff, CatalogTask.names_relation, beq_iff_eq]
  · rw [List.countP_cons, List.countP_nil, Nat.zero_add]
    refine if_congr ?_ rfl rfl
    rw [decide_eq_true_iff, CatalogTask.Names, CatalogTask.relations, mem_map_declaredIn]

/-- Over the schemas in use, each counted once, a relation that is declared is met once. -/
theorem countP_flatMap_schemas {β : Type} {f : Schema → List β} {p : β → Bool} {k : RelationKey}
    (h : ∀ s, (f s).countP p = if Declared relations k ∧ k.schemaKey = s.key then 1 else 0) :
    ((distinctBy Schema.key schemas).flatMap f).countP p =
      if Declared relations k ∧ InUse schemas k then 1 else 0 := by
  by_cases hdeclared : Declared relations k
  · have hschema : ∀ s, (f s).countP p = if k.schemaKey == s.key then 1 else 0 := by
      intro s
      rw [h]
      refine if_congr ?_ rfl rfl
      rw [beq_iff_eq, and_iff_right hdeclared]
    rw [countP_flatMap_ite hschema, countP_key (nodup_map_distinctBy schemas), Nat.mul_one]
    refine if_congr ?_ rfl rfl
    rw [mem_map_distinctBy]
    exact (and_iff_right hdeclared).symm
  · have hschema : ∀ s, (f s).countP p = if false then 1 else 0 := by
      intro s
      rw [h, if_neg fun hand => hdeclared hand.1]
      rfl
    rw [countP_flatMap_ite hschema, List.countP_false, if_neg fun hand => hdeclared hand.1]
    exact Nat.zero_mul 1

/-- A relation that is declared and in use is named by one task of the plan, and any other by
none. -/
theorem countP_names_planTasks (relations : List Relation) (schemas : List Schema)
    (k : RelationKey) :
    (planTasks relations schemas).countP (fun task => task.Names k) =
      if Declared relations k ∧ InUse schemas k then 1 else 0 := by
  rw [planTasks_eq]
  exact countP_flatMap_schemas fun s => countP_names_schemaTasks s k

/-- No relation is named twice by the tasks of a plan. -/
theorem nodup_relations_planTasks (relations : List Relation) (schemas : List Schema) :
    (((planTasks relations schemas).flatMap CatalogTask.relations).map Relation.key).Nodup := by
  refine List.nodup_iff_count.2 fun k => ?_
  have hgroup : ∀ s : Schema, ((declaredIn relations s.key).map Relation.key).count k =
      if Declared relations k ∧ k.schemaKey = s.key then 1 else 0 := by
    intro s
    rw [(nodup_map_declaredIn relations s.key).count]
    exact if_congr mem_map_declaredIn rfl rfl
  rw [flatMap_relations_planTasks, List.map_flatMap, List.count, countP_flatMap_schemas hgroup]
  split <;> omega

/-! ## The theorem -/

/-- A plan divides what is declared in the schemas in use. -/
structure PartitionsScope (relations : List Relation) (schemas : List Schema)
    (plan : List CatalogTask) : Prop where
  /-- For each schema, in the order in which they are first named and as it is first spelled, there
  is a group of tasks: one task with all relations that are declared in it, or one for each of them
  if there are more than a hundred. A relation counts once, as it is first declared. -/
  groups : plan = (schemas.eraseDupsBy fun s t => s.key == t.key).flatMap fun s =>
    let declared := (relations.filter fun r => r.schemaKey == s.key).eraseDupsBy
      fun q r => q.key == r.key
    if declared.length ≤ 100 then [.schema s declared] else declared.map .relation
  /-- No schema is asked for twice. -/
  schemas_once : (plan.filterMap CatalogTask.schemaKey?).Nodup
  /-- No relation is named twice, be it in two tasks or in one. -/
  relations_once : ((plan.flatMap CatalogTask.relations).map Relation.key).Nodup
  /-- What is declared in a schema in use is named by one task. -/
  declared : ∀ r ∈ relations, r.schemaKey ∈ schemas.map Schema.key →
    plan.countP (fun task => task.Names r.key) = 1
  /-- What is in no schema in use is not named. -/
  unused : ∀ k : RelationKey, k.schemaKey ∉ schemas.map Schema.key → ∀ task ∈ plan, ¬ task.Names k

/-- **A plan partitions its scope.** Whatever is named, how often and in whatever case, the tasks of
a plan come in one group for each schema in use; no schema and no relation is asked for twice, and
of what is declared nothing in a schema in use is left out and nothing else is taken in. -/
theorem plan_partitions_scope (relations : List Relation) (schemas : List Schema) :
    PartitionsScope relations schemas (planTasks relations schemas) where
  groups := by
    rw [planTasks_eq, distinctBy_eq_eraseDupsBy]
    refine List.flatMap_congr fun s _ => ?_
    rw [declaredIn_eq_eraseDupsBy, schemaTasks]
    split
    · next hmany => exact (if_neg (Nat.not_le.2 hmany)).symm
    · next hfew => exact (if_pos (Nat.not_lt.1 hfew)).symm
  schemas_once := by
    rw [filterMap_schemaKey?_planTasks]
    exact (nodup_map_distinctBy schemas).sublist (List.filter_sublist.map Schema.key)
  relations_once := nodup_relations_planTasks relations schemas
  declared := by
    intro r hr huse
    rw [countP_names_planTasks, if_pos ⟨List.mem_map_of_mem hr, huse⟩]
  unused := by
    intro k hunused task htask hnames
    have hnone := countP_names_planTasks relations schemas k
    rw [if_neg fun h => hunused h.2, List.countP_eq_zero] at hnone
    exact hnone task htask (decide_eq_true hnames)

example : planTasks [⟨"db", "s", "t"⟩, ⟨"DB", "S", "T"⟩, ⟨"db", "r", "t"⟩]
    [⟨"Db", "s"⟩, ⟨"db", "S"⟩] = [.schema ⟨"Db", "s"⟩ [⟨"db", "s", "t"⟩]] := by decide

end Lakehouse
