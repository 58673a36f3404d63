import Lakehouse.Proofs.Metadata.Rows
import Lakehouse.Proofs.Table.MergedRow

/-!
# Collected metadata as one table

Tasks contribute batches of different shape. As one table they lose no row and no column: what a
batch lacks is null, and where the batches disagree on the type of a column, it holds texts.

- `Collection.MergedInto`: a table holds what a collection does, column by column and row by row.
- `mergedInto_of_mergeParts`: the table of a collection does. Its rows are about the same relations
  (`map_key_rowList`), because a key is read from texts, and these are merged as they are.
- **`merges_losslessly`**: there is no table of nothing, a table holds what was collected, and the
  only columns in its way are those on whose type the batches disagree and that cannot be written as
  texts.
- `distantDates_refused`: it takes no more than one date outside the calendar to be one of these.
-/

namespace Lakehouse

namespace Collection

variable {c : Collection} {t : Batch}

/-- The rows of the batches are in a table, batch after batch, with the value that the batch holds
under each column. -/
def RowsIn (c : Collection) (t : Batch) : Prop :=
  ∀ before b after, c.batches = before ++ b :: after → ∀ i < b.rows, ∀ column ∈ t.columns,
    ∃ cell, column.cells[(before.map Batch.rows).sum + i]? = some cell ∧
      b.Holds column.field i cell

/-- A table holds what a collection does.

- `names`, `nullable`: its columns are all the columns of the batches, in order of first appearance.
- `agreed`, `texts`: a column has the type of every column of its name, or holds texts.
- `rows`, `values`: the rows are those of the batches.
- `keys`: they are about the same relations. -/
structure MergedInto (c : Collection) (t : Batch) : Prop where
  names : t.columnNames = (c.batches.flatMap Batch.columnNames).eraseDups
  nullable : ∀ column ∈ t.columns, column.field.nullable = true
  agreed : ∀ column ∈ t.columns, ¬ TypesDiffer (fieldsOf c.batches) column.field.name →
    ∀ f ∈ fieldsOf c.batches, f.name = column.field.name → column.field.type = f.type
  texts : ∀ column ∈ t.columns, TypesDiffer (fieldsOf c.batches) column.field.name →
    column.field.type = .utf8
  rows : t.rows = c.rowCount
  values : c.RowsIn t
  keys : ∃ keys, c.keys = .ok keys ∧ t.keys = .ok keys

theorem rowCount_eq_sum (c : Collection) : c.rowCount = (c.batches.map Batch.rows).sum := by
  rw [rowCount, List.sum, List.foldr_map]

/-! ## The relations that rows are about -/

/-- A table with the merged columns has key columns where there are batches. -/
theorem hasKeyColumns_of_mem {b : Batch} (hkeyed : c.Keyed) (hmerged : t.MergedFrom c.batches)
    (hb : b ∈ c.batches) : t.HasKeyColumns := by
  have htexts : ∀ name, b.HoldsTexts name → t.HoldsTexts name := by
    intro name h
    obtain ⟨own, hown, htext⟩ := h
    obtain rfl := Batch.name_of_column? hown
    have hfield := mem_fieldsOf hb hown
    refine ⟨_, hmerged.column?_eq hfield, ?_⟩
    by_cases hdiffer : TypesDiffer (fieldsOf c.batches) own.field.name
    · exact congrArg ColumnType.isText (type_mergedField_of_differ hdiffer)
    · exact (congrArg ColumnType.isText (type_mergedField_of_same hdiffer hfield)).trans htext
  have hown := hkeyed b hb
  exact ⟨htexts _ hown.database, htexts _ hown.schema, htexts _ hown.relation⟩

/-- The rows of a table with the merged columns are about the same relations. -/
theorem map_key_rowList (hkeyed : c.Keyed) (hfits : AllFit c.batches)
    (hmerged : t.MergedFrom c.batches) : t.rowList.map Row.key = c.rowList.map Row.key := by
  rw [hmerged.rowList_eq, rowList, List.map_flatMap, List.map_flatMap]
  refine List.flatMap_congr fun b hb => ?_
  rw [Batch.rowsUnder, Batch.rowList, List.map_map, List.map_map]
  exact List.map_congr_left fun i hi =>
    Batch.key_rowUnder hb (hkeyed b hb) hfits (List.mem_range.1 hi)

/-! ## The table -/

/-- What merging ends with, for a collection of at least one batch. -/
theorem mergedInto_of_mergeParts (hkeyed : c.Keyed) (hne : c.batches ≠ [])
    (hunified : unifiedFields c.batches ≠ []) (h : mergeParts c.batches = .ok t) :
    c.MergedInto t := by
  have hfits := allFit_of_mergeParts h
  have hmerged := mergedFrom_of_mergeParts hunified h
  have hfield : ∀ column ∈ t.columns, column.field ∈ unifiedFields c.batches ∧
      column = mergedColumn c.batches column.field := by
    intro column hcolumn
    rw [hmerged.columns] at hcolumn
    obtain ⟨f, hf, rfl⟩ := List.mem_map.1 hcolumn
    exact ⟨hf, rfl⟩
  have hvalues : c.RowsIn t := by
    intro before b after hbatches i hi column hcolumn
    obtain ⟨hf, hcells⟩ := hfield column hcolumn
    rw [hcells]
    exact exists_holds_flatMap hbatches hf (hfits b (by simp [hbatches]) _ hf) hi
  obtain ⟨b, rest, hbatches⟩ := List.exists_cons_of_ne_nil hne
  have hb : b ∈ c.batches := by simp [hbatches]
  have hkeys := hasKeyColumns_of_mem hkeyed hmerged hb
  refine ⟨?_, ?_, ?_, ?_, ?_, hvalues, c.rowList.map Row.key, keys_eq hkeyed, ?_⟩
  · rw [Batch.columnNames, hmerged.columns, List.map_map, ← columnNames_unifiedFields]
    rfl
  · intro column hcolumn
    rw [eq_mergedField (hfield column hcolumn).1]
    rfl
  · intro column hcolumn hsame f hf hname
    rw [eq_mergedField (hfield column hcolumn).1, ← hname]
    exact type_mergedField_of_same (hname ▸ hsame) hf
  · intro column hcolumn hdiffer
    rw [eq_mergedField (hfield column hcolumn).1]
    exact type_mergedField_of_differ hdiffer
  · rw [hmerged.rows, rowCount_eq_sum]
  · rw [Batch.keys_eq hkeys, map_key_rowList hkeyed hfits hmerged]

/-- A batch of a collection that says which relations its rows are about has columns. -/
theorem unifiedFields_ne_nil (hkeyed : c.Keyed) (hne : c.batches ≠ []) :
    unifiedFields c.batches ≠ [] := by
  obtain ⟨b, rest, hbatches⟩ := List.exists_cons_of_ne_nil hne
  have hb : b ∈ c.batches := by simp [hbatches]
  obtain ⟨column, hcolumn, -⟩ := (hkeyed b hb).database
  exact List.ne_nil_of_mem (mergedField_mem (mem_fieldsOf hb hcolumn))

/-- There is no table of nothing, and any other collection is merged. -/
theorem table_cases (c : Collection) :
    c.batches = [] ∧ c.table = .ok none ∨
      c.batches ≠ [] ∧ ((∃ t, mergeParts c.batches = .ok t ∧ c.table = .ok (some t)) ∨
        ∃ fault, mergeParts c.batches = .error fault ∧ c.table = .error fault.toFailure) := by
  by_cases hne : c.batches = []
  · exact .inl ⟨hne, by rw [table, hne]; rfl⟩
  · refine .inr ⟨hne, ?_⟩
    rw [table, mergeBatches, if_neg (by simpa using hne)]
    cases mergeParts c.batches with
    | ok t => exact .inl ⟨t, rfl, rfl⟩
    | error fault => exact .inr ⟨fault, rfl, rfl⟩

/-- A table is merged from batches that fit. -/
theorem of_table_eq_some (hkeyed : c.Keyed) (h : c.table = .ok (some t)) :
    AllFit c.batches ∧ t.MergedFrom c.batches := by
  obtain ⟨-, htable⟩ | ⟨hne, ⟨own, hmerged, htable⟩ | ⟨fault, -, htable⟩⟩ := c.table_cases
  · rw [h] at htable
    cases htable
  · obtain rfl : t = own := by simpa [h] using htable
    exact ⟨allFit_of_mergeParts hmerged,
      mergedFrom_of_mergeParts (unifiedFields_ne_nil hkeyed hne) hmerged⟩
  · rw [h] at htable
    cases htable

/-- Batches that fit are made into a table. -/
theorem exists_table (hkeyed : c.Keyed) (hne : c.batches ≠ []) (hfits : AllFit c.batches) :
    ∃ t, c.table = .ok (some t) ∧ t.MergedFrom c.batches := by
  obtain ⟨t, hmerge, hmerged⟩ := exists_mergeParts (unifiedFields_ne_nil hkeyed hne) hfits
  refine ⟨t, ?_, hmerged⟩
  rw [table, mergeBatches, if_neg (by simpa using hne), hmerge]
  rfl

/-- All rows of a collection as one table.

- `absent`: nothing is collected.
- `merged`: the table holds what was collected.
- `refused`: the batches disagree on the type of a column that cannot be written as texts. -/
structure MergesLosslessly (c : Collection) : Prop where
  absent : c.table = .ok none ↔ c.batches = []
  merged : ∀ t, c.table = .ok (some t) → c.MergedInto t
  refused : (∃ failure, c.table = .error failure) ↔
    ∃ name, TypesDiffer (fieldsOf c.batches) name ∧ ∃ b ∈ c.batches, b.HasUnwritable name

end Collection

/-- Collected metadata is merged into one table without losing a row, a column or a value. -/
theorem merges_losslessly (c : Collection) (hkeyed : c.Keyed) : c.MergesLosslessly := by
  obtain ⟨hnil, htable⟩ | ⟨hne, hmerge⟩ := c.table_cases
  · exact ⟨by simp [htable, hnil], fun t ht => by simp [htable] at ht, by simp [htable, hnil]⟩
  have hunified := Collection.unifiedFields_ne_nil hkeyed hne
  obtain ⟨merged, hmerged, htable⟩ | ⟨fault, hfault, htable⟩ := hmerge
  · refine ⟨by simp [htable, hne], fun t ht => ?_, ?_⟩
    · obtain rfl : merged = t := by simpa [htable] using ht
      exact Collection.mergedInto_of_mergeParts hkeyed hne hunified hmerged
    · refine iff_of_false (by simp [htable]) ?_
      exact allFit_iff.1 (allFit_of_mergeParts hmerged)
  · refine ⟨by simp [htable, hne], fun t ht => by simp [htable] at ht, ?_⟩
    refine iff_of_true ⟨_, htable⟩ (Classical.byContradiction fun hnone => ?_)
    obtain ⟨t, ht, -⟩ := exists_mergeParts hunified (allFit_iff.2 hnone)
    rw [hfault] at ht
    cases ht

/-- Batches that disagree: keys are in different kinds of text, a column of bytes is one of dates
elsewhere, and the batch without rows has a column of its own twice. -/
def mixedBatches : Collection where
  batches :=
    [{ rows := 2
       columns :=
        [.ofTexts Batch.databaseColumn ["DB", "db"], .ofTexts Batch.schemaColumn ["s", "s"],
          .holding ⟨Batch.nameColumn, .largeUtf8, true⟩ [.text "a", .null],
          .holding ⟨"detail", .binary, true⟩ [.bytes [104, 105], .bytes [255]]]
       aligned := by decide },
      { rows := 0
        columns :=
          [.holding ⟨"owner", .utf8View, true⟩ [], .ofTexts Batch.databaseColumn [],
            .holding ⟨Batch.schemaColumn, .utf8View, false⟩ [],
            .holding ⟨Batch.nameColumn, .largeUtf8, false⟩ [],
            .holding ⟨"owner", .utf8View, true⟩ []]
        aligned := by decide },
      { rows := 1
        columns :=
          [.holding ⟨Batch.nameColumn, .largeUtf8, false⟩ [.text "c"],
            .holding ⟨"detail", .date32, true⟩ [.int 19000], .ofTexts Batch.schemaColumn ["T"],
            .ofTexts Batch.databaseColumn ["db"],
            .holding ⟨"detail", .fixedBinary 4, true⟩ [.null]]
        aligned := by decide }]
  failures := []

theorem keyed_mixedBatches : mixedBatches.Keyed := by
  decide

theorem merges_losslessly_mixed :
    mixedBatches.Keyed ∧ mixedBatches.MergesLosslessly ∧
      ∃ t, mixedBatches.table = .ok (some t) ∧ mixedBatches.MergedInto t := by
  have hmerges := merges_losslessly mixedBatches keyed_mixedBatches
  obtain ⟨t, ht⟩ : ∃ t, mixedBatches.table = .ok (some t) := ⟨_, rfl⟩
  exact ⟨keyed_mixedBatches, hmerges, t, ht, hmerges.merged t ht⟩

/-- Batches that disagree on a column of dates, which holds a day after the end of the calendar. -/
def distantDates : Collection where
  batches :=
    [{ rows := 1
       columns :=
        [.ofTexts Batch.databaseColumn ["db"], .ofTexts Batch.schemaColumn ["s"],
          .ofTexts Batch.nameColumn ["a"], .holding ⟨"altered", .date32, true⟩ [.int 100000000]]
       aligned := by decide },
      { rows := 1
        columns :=
          [.ofTexts Batch.databaseColumn ["db"], .ofTexts Batch.schemaColumn ["s"],
            .ofTexts Batch.nameColumn ["b"], .holding ⟨"altered", .utf8, true⟩ [.text "never"]]
        aligned := by decide }]
  failures := []

/-- A table is refused although every column is of a type that can be written as texts. -/
theorem distantDates_refused :
    distantDates.Keyed ∧ (∃ failure, distantDates.table = .error failure) ∧
      ¬ ∃ name, TypesDiffer (fieldsOf distantDates.batches) name ∧
        ∃ b ∈ distantDates.batches, ∃ column, b.column? name = some column ∧
          column.field.type.isCastable = false := by
  have hcastable : ∀ b ∈ distantDates.batches, ∀ column ∈ b.columns,
      column.field.type.isCastable = true := by decide
  refine ⟨by decide, ⟨_, rfl⟩, ?_⟩
  rintro ⟨name, -, b, hb, column, hcolumn, hnot⟩
  rw [hcastable b hb column (List.mem_of_find?_eq_some hcolumn)] at hnot
  cases hnot

end Lakehouse
