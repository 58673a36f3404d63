import Lakehouse.Proofs.Metadata.Retained

/-!
# Retaining as a filter

To retain some keys is to filter the rows of a collection, fragment by fragment. Filters compose, and
so does retaining.

- `Batch.select_select`: a selection from a selection is a selection, and `Batch.select_wanted_twice`
  is the case in which both go by keys.
- `Collection.retained_retained`: what is left when some keys are retained, and then others, is what
  is left of both at once. A batch that the first leaves without rows would be left without rows by
  the second.
- **`retains_exactly`**: what is left of a collection, and of what is left.
-/

namespace Lakehouse

/-- To filter the images of elements it does not matter whether elements without a passing image are
filtered out before. -/
theorem filter_map_filter {α : Type} {p : α → Bool} {g : α → α}
    (h : ∀ a, p (g a) = true → p a = true) (as : List α) :
    ((as.filter p).map g).filter p = (as.map g).filter p := by
  rw [List.filter_map, List.filter_map, List.filter_filter]
  refine congrArg _ (List.filter_congr fun a _ => ?_)
  rw [Function.comp_apply, Bool.and_eq_left_iff_imp]
  exact h a

/-- The elements at the places where a property holds are those that have it. -/
theorem map_getD_filter_range {α : Type} (q : α → Bool) (as : List α) (d : α) :
    ((List.range as.length).filter fun j => q (as.getD j d)).map (as.getD · d) = as.filter q := by
  have has : as = (List.range as.length).map (as.getD · d) :=
    List.ext_getElem (by simp) fun j hj hj' => by simp [hj]
  conv => rhs; rw [has, List.filter_map]
  rfl

namespace Batch

/-- Places of a selection are places of the batch. -/
theorem select_select (b : Batch) {places others : List Nat} (h : ∀ j ∈ others, j < places.length) :
    (b.select places).select others = b.select (others.map (places.getD · 0)) := by
  refine Batch.ext (by simp [select]) ?_
  simp only [select, List.map_map]
  refine List.map_congr_left fun c _ => Column.ext rfl ?_
  simp only [Function.comp_apply, Column.select, List.map_map]
  refine List.map_congr_left fun j hj => ?_
  have hlt := h j hj
  simp [hlt]

theorem row_select (b : Batch) {places : List Nat} {j : Nat} (h : j < places.length) :
    (b.select places).row j = b.row (places.getD j 0) := by
  simp [row, select, Column.select, h]

variable {first second both : List RelationKey}

/-- The rows of a selection that are about wanted relations. -/
theorem wanted_select (b : Batch) (places : List Nat) (only : List RelationKey) :
    ((b.select places).wanted only).map (places.getD · 0) =
      places.filter fun i => only.contains (b.row i).key := by
  have hwanted : (b.select places).wanted only = (List.range places.length).filter fun j =>
      only.contains (b.row (places.getD j 0)).key :=
    List.filter_congr fun j hj => by rw [b.row_select (List.mem_range.1 hj)]
  rw [hwanted]
  exact map_getD_filter_range (fun i => only.contains (b.row i).key) places 0

/-- The rows about relations that are wanted twice. -/
theorem select_wanted_twice (b : Batch)
    (h : ∀ key, key ∈ both ↔ key ∈ first ∧ key ∈ second) :
    (b.select (b.wanted first)).select ((b.select (b.wanted first)).wanted second) =
      b.select (b.wanted both) := by
  have hplaces : ∀ j ∈ (b.select (b.wanted first)).wanted second, j < (b.wanted first).length :=
    fun j hj => List.mem_range.1 (List.mem_filter.1 hj).1
  have hcontains : ∀ key, (second.contains key && first.contains key) = both.contains key := by
    intro key
    rw [Bool.eq_iff_iff, Bool.and_eq_true, List.contains_iff_mem, List.contains_iff_mem,
      List.contains_iff_mem, h key, and_comm]
  rw [select_select b hplaces, wanted_select, wanted, wanted, List.filter_filter]
  simp only [hcontains]

end Batch

namespace Collection

variable {c : Collection} {first second both : List RelationKey}

/-- To retain some keys and then others is to retain those that are wanted twice. -/
theorem retained_retained (c : Collection) (h : ∀ key, key ∈ both ↔ key ∈ first ∧ key ∈ second) :
    (c.retained first).retained second = c.retained both := by
  have hrows : ∀ b : Batch, decide (0 < (b.select (b.wanted second)).rows) = true →
      decide (0 < b.rows) = true := by
    intro b hpos
    have hleft : 0 < (b.wanted second).length := of_decide_eq_true hpos
    have hle := List.length_filter_le (fun i => second.contains (b.row i).key) (List.range b.rows)
    rw [List.length_range] at hle
    exact decide_eq_true (Nat.lt_of_lt_of_le hleft hle)
  unfold retained
  rw [filter_map_filter hrows, List.map_map]
  simp only [Function.comp_def, Batch.select_wanted_twice _ h]

/-- What is left of a collection when some keys are retained.

- `failures`: every failure is left.
- `rows`, `keys`: of the rows those are left that are about wanted relations, in order, and so it is
  with the keys.
- `batches`: of each batch with such a row these rows are left, with all columns and values.
- `filled`: there is no batch without a row.
- `composes`: if others are retained of what is left, or the other way round, then as much is left as
  if the keys were retained that are wanted twice. -/
structure RetainsExactly (c : Collection) (only : List RelationKey) (left : Collection) : Prop where
  failures : left.failures = c.failures
  rows : left.rowList = c.rowList.filter fun row => only.contains row.key
  keys : ∃ keys, c.keys = .ok keys ∧ left.keys = .ok (keys.filter fun key => only.contains key)
  batches : List.Forall₂ (fun b kept => kept.columns.map (·.field) = b.columns.map (·.field) ∧
    kept.rowList = b.rowList.filter fun row => only.contains row.key) (c.withWanted only) left.batches
  filled : ∀ b ∈ left.batches, 0 < b.rows
  composes : ∀ others both : List RelationKey, (∀ key, key ∈ both ↔ key ∈ only ∧ key ∈ others) →
    left.retain others = c.retain both ∧
      ∃ other, c.retain others = .ok other ∧ other.retain only = c.retain both

end Collection

/-- **Retaining keys is an exact filter**, of the rows of every batch, whatever types its columns have,
as long as the three that name a relation hold texts. -/
theorem retains_exactly (c : Collection) (only : List RelationKey) (hkeyed : c.Keyed) :
    ∃ left, c.retain only = .ok left ∧ c.RetainsExactly only left := by
  refine ⟨c.retained only, Collection.retain_eq_retained only hkeyed,
    { failures := rfl
      rows := c.rowList_retained only
      keys := ?_
      batches := ?_
      filled := ?_
      composes := ?_ }⟩
  · refine ⟨_, Collection.keys_eq hkeyed, ?_⟩
    rw [Collection.keys_eq (Collection.keyed_retained only hkeyed), c.rowList_retained only,
      List.filter_map]
    rfl
  · rw [c.batches_retained only, List.forall₂_map_right_iff, List.forall₂_same]
    intro b _
    refine ⟨?_, Batch.rowList_select_wanted only b⟩
    rw [Batch.select, List.map_map]
    rfl
  · intro b hb
    exact of_decide_eq_true (List.mem_filter.1 hb).2
  · intro others both hboth
    have hswapped : ∀ key, key ∈ both ↔ key ∈ others ∧ key ∈ only := fun key => by
      rw [hboth key, and_comm]
    have hother := Collection.keyed_retained others hkeyed
    rw [Collection.retain_eq_retained both hkeyed,
      Collection.retain_eq_retained others (Collection.keyed_retained only hkeyed),
      c.retained_retained hboth]
    refine ⟨rfl, c.retained others, Collection.retain_eq_retained others hkeyed, ?_⟩
    rw [Collection.retain_eq_retained only hother, c.retained_retained hswapped]

/-- One of the rows that are left has no name, and the batch without rows is gone. -/
theorem retains_exactly_mixed :
    let only := [RelationKey.of "DB" "S" "", RelationKey.of "db" "t" "c", RelationKey.of "db" "t" "d"]
    mixedBatches.Keyed ∧ ∃ left, mixedBatches.retain only = .ok left ∧
      mixedBatches.RetainsExactly only left ∧ left.batches.map Batch.rows = [1, 1] ∧
      left.keys = .ok [RelationKey.of "db" "s" "", RelationKey.of "db" "t" "c"] := by
  intro only
  obtain ⟨left, hleft, hexact⟩ := retains_exactly mixedBatches only keyed_mixedBatches
  have hrun : mixedBatches.retain only = .ok (mixedBatches.retained only) :=
    Collection.retain_eq_retained only keyed_mixedBatches
  obtain rfl : mixedBatches.retained only = left := Except.ok.inj (hrun.symm.trans hleft)
  exact ⟨keyed_mixedBatches, _, hleft, hexact, by decide +kernel, by rfl⟩

end Lakehouse
