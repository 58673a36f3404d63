import Lakehouse.Proofs.Table.Row

/-!
# Rows of a collection

The batches of a collection come in the order in which tasks were answered. What is said about a
collection is said about all its rows.

- `Collection.Keyed`: every batch says which relations its rows are about. A collection that tasks
  contributed to is always so.
- `keys_eq`, `length_rowList`: keys and row count are those of the rows.
- `Collection.retained`: what is left of a collection when some keys are retained
  (`retain_eq_retained`): the rows with these keys, and every failure (`retain_eq`).
-/

namespace Lakehouse

namespace Collection

variable {c : Collection}

/-- All rows, batch by batch. -/
def rowList (c : Collection) : List Row :=
  c.batches.flatMap Batch.rowList

/-- Every batch says which relations its rows are about. -/
def Keyed (c : Collection) : Prop :=
  ∀ b ∈ c.batches, b.HasKeyColumns

instance (c : Collection) : Decidable c.Keyed :=
  inferInstanceAs (Decidable (∀ b ∈ c.batches, b.HasKeyColumns))

theorem length_rowList (c : Collection) : c.rowList.length = c.rowCount := by
  unfold rowList rowCount
  induction c.batches with
  | nil => rfl
  | cons b rest ih =>
    rw [List.flatMap_cons, List.length_append, ih, Batch.length_rowList, List.foldr_cons]

/-- The keys of a collection are those of its rows. -/
theorem keys_eq (h : c.Keyed) : c.keys = .ok (c.rowList.map Row.key) := by
  have hread : c.batches.mapM Batch.keys = .ok (c.batches.map fun b => b.rowList.map Row.key) :=
    mapM_eq_map fun b hb => Batch.keys_eq (h b hb)
  rw [keys, hread, rowList, List.map_flatMap, List.flatMap_def]
  rfl

/-- Dropping batches without rows drops nothing of what is said row by row. -/
theorem flatMap_filter_rows {α : Type} {g : Batch → List α} (hg : ∀ b, b.rows = 0 → g b = [])
    (batches : List Batch) :
    (batches.filter fun b => 0 < b.rows).flatMap g = batches.flatMap g := by
  induction batches with
  | nil => rfl
  | cons b rest ih =>
    rw [List.filter_cons, List.flatMap_cons]
    split
    · rw [List.flatMap_cons, ih]
    · next hrows => rw [ih, hg b (by simpa using hrows), List.nil_append]

/-- What is left of the batches when some keys are retained: of each the rows that are about them,
if there are any. -/
def retained (c : Collection) (only : List RelationKey) : Collection :=
  { c with batches :=
      (c.batches.map fun b => b.select (b.wanted only)).filter fun b => 0 < b.rows }

/-- Retaining some keys selects from every batch the rows that are about them. -/
theorem retain_eq_retained (only : List RelationKey) (h : c.Keyed) :
    c.retain only = .ok (c.retained only) := by
  rw [retain, mapM_eq_map fun b hb => Batch.retain_eq_select only (h b hb)]
  rfl

theorem keyed_retained (only : List RelationKey) (h : c.Keyed) : (c.retained only).Keyed := by
  intro b hb
  obtain ⟨own, hown, rfl⟩ := List.mem_map.1 (List.mem_filter.1 hb).1
  exact (h own hown).select _

theorem rowList_retained (c : Collection) (only : List RelationKey) :
    (c.retained only).rowList = c.rowList.filter fun row => only.contains row.key := by
  have hempty : ∀ b : Batch, b.rows = 0 → b.rowList = [] := by
    intro b hrows
    rw [Batch.rowList, hrows]
    rfl
  rw [rowList, retained, flatMap_filter_rows hempty, List.flatMap_map, rowList, List.filter_flatMap]
  simp only [Batch.rowList_select_wanted]

/-- Retaining some keys leaves the rows with these keys, in order, and every failure. -/
theorem retain_eq (only : List RelationKey) (h : c.Keyed) :
    ∃ left, c.retain only = .ok left ∧ left.Keyed ∧ left.failures = c.failures ∧
      left.rowList = c.rowList.filter fun row => only.contains row.key :=
  ⟨c.retained only, retain_eq_retained only h, keyed_retained only h, rfl, c.rowList_retained only⟩

end Collection

end Lakehouse
