import Lakehouse.Metadata.Plan
import Mathlib.Data.Finset.Card
import Mathlib.Data.List.Perm.Basic

/-!
# What a plan covers

A plan is a list of tasks, and each task asks about some relations. The point of the plan is that no
relation is asked about twice, however often it or its schema is named and in whatever case.

- `distinctBy`: keeps every key (`mem_map_distinctBy`), once (`nodup_map_distinctBy`).
- `RelationGroups.group_of`: a group has the relations of its schema. `planTasks_eq` says that each
  schema in use still finds its whole group when its turn comes.
- `CatalogTask.covers`: the relations that a task asks about.
- `Planned`: the relations that a plan should cover. In a schema that fans out these are the
  declared ones only.
- `countP_planTasks`: a plan covers exactly the planned relations, each by one task, so that the
  rows of all tasks together are the rows about planned relations (`flatMap_covers_perm`).
-/

namespace Lakehouse

/-! ## Distinct elements -/

section

variable {α κ : Type} [DecidableEq κ] {key : α → κ}

theorem mem_map_distinctFrom {seen : List κ} {as : List α} {k : κ} :
    k ∈ (distinctFrom key seen as).map key ↔ k ∈ as.map key ∧ k ∉ seen := by
  induction as generalizing seen with
  | nil => simp [distinctFrom]
  | cons a rest ih =>
    unfold distinctFrom
    split
    · next hseen =>
      rw [ih, List.map_cons, List.mem_cons]
      constructor
      · rintro ⟨hmem, hk⟩
        exact ⟨.inr hmem, hk⟩
      · rintro ⟨rfl | hmem, hk⟩
        · -- the key of an element that is left out counts as taken
          exact absurd hseen hk
        · exact ⟨hmem, hk⟩
    · next hnew =>
      rw [List.map_cons, List.mem_cons, ih, List.map_cons, List.mem_cons, List.mem_cons, not_or]
      constructor
      · rintro (rfl | ⟨hmem, -, hk⟩)
        · exact ⟨.inl rfl, hnew⟩
        · exact ⟨.inr hmem, hk⟩
      · rintro ⟨hmem, hk⟩
        by_cases hka : k = key a
        · exact .inl hka
        · exact .inr ⟨hmem.resolve_left hka, hka, hk⟩

theorem nodup_map_distinctFrom (seen : List κ) (as : List α) :
    ((distinctFrom key seen as).map key).Nodup := by
  induction as generalizing seen with
  | nil => exact List.nodup_nil
  | cons a rest ih =>
    unfold distinctFrom
    split
    · exact ih seen
    · rw [List.map_cons, List.nodup_cons]
      refine ⟨fun hmem => ?_, ih (key a :: seen)⟩
      obtain ⟨-, hnew⟩ := mem_map_distinctFrom.1 hmem
      exact hnew List.mem_cons_self

/-- No key is lost. -/
theorem mem_map_distinctBy {as : List α} {k : κ} :
    k ∈ (distinctBy key as).map key ↔ k ∈ as.map key := by
  rw [distinctBy, mem_map_distinctFrom, and_iff_left List.not_mem_nil]

/-- No key is left twice. -/
theorem nodup_map_distinctBy (as : List α) : ((distinctBy key as).map key).Nodup :=
  nodup_map_distinctFrom [] as

end

/-! ## Groups -/

namespace RelationGroups

variable {groups : RelationGroups}

theorem group_cons (i k : SchemaKey) (relations : List Relation) :
    group ((i, relations) :: groups) k = if k = i then relations else groups.group k := by
  unfold group
  rw [List.lookup_cons]
  by_cases h : k = i
  · rw [if_pos h, beq_iff_eq.2 h, Option.getD_some]
  · rw [if_neg h, beq_eq_false_iff_ne.2 h]

/-- Taking out one group leaves the others as they are. -/
theorem group_without (j k : SchemaKey) :
    (groups.without j).group k = if k = j then [] else groups.group k := by
  induction groups with
  | nil => exact (ite_self _).symm
  | cons e rest ih =>
    obtain ⟨i, relations⟩ := e
    unfold without at ih ⊢
    rw [List.filter_cons, group_cons]
    by_cases hi : i = j
    · rw [if_neg (by simpa using hi), ih, hi]
      split
      · rfl
      · rfl
    · rw [if_pos (by simpa using hi), group_cons, ih]
      by_cases hk : k = i
      · rw [if_pos hk, if_pos hk, if_neg (hk ▸ hi)]
      · rw [if_neg hk, if_neg hk]

/-- A relation comes last in the group of its schema. -/
theorem group_add (r : Relation) (k : SchemaKey) :
    (groups.add r).group k = groups.group k ++ [r].filter fun q => q.schemaKey == k := by
  unfold add
  rw [group_cons, group_without]
  by_cases hk : k = r.schemaKey
  · subst hk
    simp
  · have hr : r.schemaKey ≠ k := Ne.symm hk
    simp [hk, hr]

theorem group_foldl_add (relations : List Relation) (k : SchemaKey) :
    (relations.foldl add groups).group k =
      groups.group k ++ relations.filter fun r => r.schemaKey == k := by
  induction relations generalizing groups with
  | nil => rw [List.foldl_nil, List.filter_nil, List.append_nil]
  | cons r rest ih =>
    rw [List.foldl_cons, ih, group_add, List.append_assoc, ← List.filter_append,
      List.singleton_append]

/-- The group of a schema is its relations, in order. -/
theorem group_of (relations : List Relation) (k : SchemaKey) :
    (of relations).group k = relations.filter fun r => r.schemaKey == k :=
  group_foldl_add relations k

end RelationGroups

/-- Where schemas have distinct keys, each finds its whole group. -/
theorem tasksFor_eq {groups : RelationGroups} {schemas : List Schema}
    (h : (schemas.map Schema.key).Nodup) :
    tasksFor groups schemas = schemas.flatMap fun s => schemaTasks s (groups.group s.key) := by
  induction schemas generalizing groups with
  | nil => rfl
  | cons s rest ih =>
    rw [List.map_cons, List.nodup_cons] at h
    rw [tasksFor, ih h.2, List.flatMap_cons]
    -- what the first schema has taken out is not asked for again
    congr 1
    refine List.flatMap_congr fun t ht => ?_
    have hne : t.key ≠ s.key := fun heq => h.1 (heq ▸ List.mem_map_of_mem ht)
    rw [RelationGroups.group_without, if_neg hne]

/-! ## What tasks ask about -/

/-- The task asks about the relation of that key. -/
def CatalogTask.covers : CatalogTask → RelationKey → Bool
  | schema s _, k => k.schemaKey == s.key
  | relation r, k => k == r.key

/-- The relation is in one of the schemas. -/
def InUse (schemas : List Schema) (k : RelationKey) : Prop :=
  k.schemaKey ∈ schemas.map Schema.key

/-- The relation is declared. -/
def Declared (relations : List Relation) (k : RelationKey) : Prop :=
  k ∈ relations.map Relation.key

/-- More relations are declared in the schema than are asked for with it. -/
def FansOut (relations : List Relation) (k : SchemaKey) : Prop :=
  mostRelationsPerSchema <
    ((relations.map Relation.key).toFinset.filter fun r => r.schemaKey = k).card

/-- The relation is in one of the schemas, and declared if that schema fans out. -/
def Planned (relations : List Relation) (schemas : List Schema) (k : RelationKey) : Prop :=
  InUse schemas k ∧ (FansOut relations k.schemaKey → Declared relations k)

instance (schemas : List Schema) (k : RelationKey) : Decidable (InUse schemas k) :=
  inferInstanceAs (Decidable (_ ∈ _))

instance (relations : List Relation) (k : RelationKey) : Decidable (Declared relations k) :=
  inferInstanceAs (Decidable (_ ∈ _))

instance (relations : List Relation) (k : SchemaKey) : Decidable (FansOut relations k) :=
  inferInstanceAs (Decidable (_ < _))

instance (relations : List Relation) (schemas : List Schema) (k : RelationKey) :
    Decidable (Planned relations schemas k) :=
  inferInstanceAs (Decidable (_ ∧ _))

/-- The declared relations of a schema, each once. -/
def declaredIn (relations : List Relation) (k : SchemaKey) : List Relation :=
  (distinctBy Relation.key relations).filter fun r => r.schemaKey == k

section

variable {relations : List Relation} {schemas : List Schema} {k : RelationKey}

theorem mem_map_declaredIn {schemaKey : SchemaKey} :
    k ∈ (declaredIn relations schemaKey).map Relation.key ↔
      Declared relations k ∧ k.schemaKey = schemaKey := by
  have hdistinct : Declared relations k ↔
      k ∈ (distinctBy Relation.key relations).map Relation.key := mem_map_distinctBy.symm
  rw [hdistinct, List.mem_map, List.mem_map]
  constructor
  · rintro ⟨r, hr, rfl⟩
    obtain ⟨hmem, hin⟩ := List.mem_filter.1 hr
    exact ⟨⟨r, hmem, rfl⟩, beq_iff_eq.1 hin⟩
  · rintro ⟨⟨r, hmem, rfl⟩, hin⟩
    exact ⟨r, List.mem_filter.2 ⟨hmem, beq_iff_eq.2 hin⟩, rfl⟩

theorem nodup_map_declaredIn (relations : List Relation) (schemaKey : SchemaKey) :
    ((declaredIn relations schemaKey).map Relation.key).Nodup :=
  (nodup_map_distinctBy relations).sublist ((List.filter_sublist).map Relation.key)

/-- The relations in a schema are counted by their keys. -/
theorem fansOut_iff {schemaKey : SchemaKey} :
    FansOut relations schemaKey ↔
      mostRelationsPerSchema < (declaredIn relations schemaKey).length := by
  have hkeys : (relations.map Relation.key).toFinset.filter (fun r => r.schemaKey = schemaKey) =
      ((declaredIn relations schemaKey).map Relation.key).toFinset := by
    ext k
    rw [Finset.mem_filter, List.mem_toFinset, List.mem_toFinset, mem_map_declaredIn, Declared]
  rw [FansOut, hkeys, List.toFinset_card_of_nodup (nodup_map_declaredIn relations schemaKey),
    List.length_map]

/-! ## Counting tasks -/

/-- The hits in lists that are put together, where each list has `n` of them or none. -/
theorem countP_flatMap_ite {α β : Type} {f : α → List β} {p : β → Bool} {q : α → Bool} {n : Nat}
    (h : ∀ a, (f a).countP p = if q a then n else 0) (as : List α) :
    (as.flatMap f).countP p = as.countP q * n := by
  induction as with
  | nil => rw [List.flatMap_nil, List.countP_nil, List.countP_nil, Nat.zero_mul]
  | cons a rest ih =>
    rw [List.flatMap_cons, List.countP_append, ih, h, List.countP_cons]
    split
    · rw [Nat.add_mul, Nat.one_mul, Nat.add_comm]
    · rw [Nat.zero_add, Nat.add_zero]

/-- Where keys are distinct, one element at most has a given key. -/
theorem countP_key {α κ : Type} [DecidableEq κ] {key : α → κ} {as : List α}
    (h : (as.map key).Nodup) (k : κ) :
    as.countP (fun a => k == key a) = if k ∈ as.map key then 1 else 0 := by
  rw [← h.count, List.count, List.countP_map]
  refine List.countP_congr fun a _ => ?_
  show (k == key a) = true ↔ (key a == k) = true
  rw [beq_iff_eq, beq_iff_eq, eq_comm]

/-- The plan for each schema in turn, with the relations that are declared in it. -/
theorem planTasks_eq (relations : List Relation) (schemas : List Schema) :
    planTasks relations schemas = (distinctBy Schema.key schemas).flatMap fun s =>
      schemaTasks s (declaredIn relations s.key) := by
  rw [planTasks, tasksFor_eq (nodup_map_distinctBy schemas)]
  refine List.flatMap_congr fun s _ => ?_
  rw [RelationGroups.group_of, declaredIn]

/-- The tasks for a schema cover the relations in it, each by one task. -/
theorem countP_schemaTasks (s : Schema) (k : RelationKey) :
    (schemaTasks s (declaredIn relations s.key)).countP (fun task => task.covers k) =
      if k.schemaKey = s.key ∧ (FansOut relations k.schemaKey → Declared relations k) then 1
      else 0 := by
  unfold schemaTasks
  split
  · next hmany =>
    -- one task for each declared relation, of which at most one has the key
    have hfans : FansOut relations s.key := fansOut_iff.2 hmany
    have hcount := countP_key (nodup_map_declaredIn relations s.key) k
    rw [List.countP_map]
    refine hcount.trans (if_congr ?_ rfl rfl)
    rw [mem_map_declaredIn]
    constructor
    · rintro ⟨hdeclared, hin⟩
      exact ⟨hin, fun _ => hdeclared⟩
    · rintro ⟨hin, hdeclared⟩
      exact ⟨hdeclared (hin ▸ hfans), hin⟩
  · next hfew =>
    -- one task for the schema, whatever is declared in it
    have hfans : ¬ FansOut relations s.key := fun h => hfew (fansOut_iff.1 h)
    rw [List.countP_cons, List.countP_nil, Nat.zero_add]
    refine if_congr ?_ rfl rfl
    rw [CatalogTask.covers, beq_iff_eq]
    constructor
    · intro hin
      exact ⟨hin, fun h => absurd (hin ▸ h) hfans⟩
    · rintro ⟨hin, -⟩
      exact hin

/-- **A plan covers each planned relation by one task**, and no other relation. -/
theorem countP_planTasks (relations : List Relation) (schemas : List Schema) (k : RelationKey) :
    (planTasks relations schemas).countP (fun task => task.covers k) =
      if Planned relations schemas k then 1 else 0 := by
  -- what is asked of the relation does not depend on the schema, and distinct schemas have one key
  -- in common with it at most
  by_cases hk : FansOut relations k.schemaKey → Declared relations k
  · have hschema : ∀ s : Schema, (schemaTasks s (declaredIn relations s.key)).countP
        (fun task => task.covers k) = if k.schemaKey == s.key then 1 else 0 := by
      intro s
      rw [countP_schemaTasks]
      refine if_congr ?_ rfl rfl
      rw [and_iff_left hk, beq_iff_eq]
    rw [planTasks_eq, countP_flatMap_ite hschema, countP_key (nodup_map_distinctBy schemas),
      Nat.mul_one]
    refine if_congr ?_ rfl rfl
    rw [mem_map_distinctBy]
    exact (and_iff_left hk).symm
  · have hschema : ∀ s : Schema, (schemaTasks s (declaredIn relations s.key)).countP
        (fun task => task.covers k) = if false then 1 else 0 := by
      intro s
      rw [countP_schemaTasks, if_neg fun h => hk h.2]
      rfl
    rw [planTasks_eq, countP_flatMap_ite hschema, List.countP_false, if_neg fun h => hk h.2]
    exact Nat.zero_mul 1

/-! ## Rows of a plan -/

/-- Where each relation is covered as often as `P` says, once or not at all, the rows that all tasks
cover together are the rows with `P`. -/
theorem flatMap_covers_perm {α : Type} [DecidableEq α] {tasks : List CatalogTask}
    {P : RelationKey → Prop} [DecidablePred P] (key : α → RelationKey) (rows : List α)
    (h : ∀ k, tasks.countP (fun task => task.covers k) = if P k then 1 else 0) :
    (tasks.flatMap fun task => rows.filter fun row => task.covers (key row)).Perm
      (rows.filter fun row => P (key row)) := by
  have hfilter : ∀ (q : α → Bool) (row : α),
      (rows.filter q).count row = if q row then rows.count row else 0 := by
    intro q row
    split
    · next hq => exact List.count_filter hq
    · next hq => exact List.count_eq_zero.2 fun hmem => hq (List.mem_filter.1 hmem).2
  refine List.perm_iff_count.2 fun row => ?_
  have hcount : (tasks.flatMap fun task => rows.filter fun row => task.covers (key row)).count row =
      tasks.countP (fun task => task.covers (key row)) * rows.count row :=
    countP_flatMap_ite (fun task => hfilter _ row) tasks
  rw [hcount, h, hfilter]
  by_cases hrow : P (key row)
  · rw [if_pos hrow, if_pos (decide_eq_true hrow), Nat.one_mul]
  · rw [if_neg hrow, if_neg (by simpa using hrow), Nat.zero_mul]

end

end Lakehouse
