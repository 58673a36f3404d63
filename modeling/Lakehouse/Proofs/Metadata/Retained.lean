import Lakehouse.Proofs.Metadata.Table

/-!
# The table of what is retained

Some keys are retained before the batches are made into a table, and a batch in which nothing is
retained is dropped with its columns. What is left of the table has the rows that are wanted, in
order, but it has the columns of the batches that are left, which may be fewer, and whose types may
agree where those of all batches did not.

- `Collection.withWanted`: the batches of which something is left. The columns of the table are
  theirs (`unifiedFields_retained`).
- `Collection.allFit_retained`: where all batches are merged, those that are left are.
- `exists_wider`: a column of the table that is left is one of the whole table, with its type or as
  texts.
- `Row.LeftAs`: what is left of a row under other columns.
- **`retained_table_keeps_rows`**: what is left of a table, and when it is a part of it.
- `retained_table_loses_columns`: a table that is left without one of its columns, and with another
  type in a second.
-/

namespace Lakehouse

variable {parts others : List Batch} {b : Batch} {f g : Field} {name : String}
  {only : List RelationKey}

/-! ## Columns of some of the batches -/

theorem TypesDiffer.mono {fields fields' : List Field} (hsub : fields ⊆ fields')
    (h : TypesDiffer fields name) : TypesDiffer fields' name := by
  obtain ⟨f, hf, g, hg, hnames⟩ := h
  exact ⟨f, hsub hf, g, hsub hg, hnames⟩

theorem fieldsOf_subset (hsub : others ⊆ parts) : fieldsOf others ⊆ fieldsOf parts := by
  intro f hf
  obtain ⟨b, hb, hf⟩ := List.mem_flatMap.1 hf
  exact List.mem_flatMap.2 ⟨b, hsub hb, hf⟩

/-- Where all batches are merged, some of them are. -/
theorem AllFit.subset (h : AllFit parts) (hsub : others ⊆ parts) : AllFit others := by
  rw [allFit_iff] at h ⊢
  rintro ⟨name, hdiffer, b, hb, hunwritable⟩
  exact h ⟨name, hdiffer.mono (fieldsOf_subset hsub), b, hsub hb, hunwritable⟩

/-- A merged column of some batches is one of all of them. There it has the same type, or it holds
texts, and then the batches of the former agree on their type. -/
theorem exists_wider (hsub : fieldsOf others ⊆ fieldsOf parts) (hf : f ∈ unifiedFields others) :
    ∃ g ∈ unifiedFields parts, g.name = f.name ∧ (g.type = f.type ∨
      g.type = .utf8 ∧ ∀ own ∈ fieldsOf others, own.name = f.name → own.type = f.type) := by
  obtain ⟨own, hown, hname⟩ : ∃ own ∈ fieldsOf others, own.name = f.name := by
    rw [unifiedFields_eq] at hf
    obtain ⟨name, hmem, rfl⟩ := List.mem_map.1 hf
    exact List.mem_map.1 (List.mem_eraseDups.1 hmem)
  refine ⟨_, mergedField_mem (hsub hown), hname, ?_⟩
  rw [eq_mergedField hf, ← hname]
  by_cases hdiffer : TypesDiffer (fieldsOf others) own.name
  · rw [type_mergedField_of_differ hdiffer, type_mergedField_of_differ (hdiffer.mono hsub)]
    exact .inl rfl
  · by_cases hall : TypesDiffer (fieldsOf parts) own.name
    · refine .inr ⟨type_mergedField_of_differ hall, fun other hother hsame => ?_⟩
      have hsame : other.name = own.name := hsame
      rw [← hsame] at hdiffer ⊢
      exact (type_mergedField_of_same hdiffer hother).symm
    · rw [type_mergedField_of_same hdiffer hown, type_mergedField_of_same hall (hsub hown)]
      exact .inl rfl

/-! ## Columns of what is retained -/

/-- A value at selected places is one of the column, or null where the column has none. -/
theorem Column.mem_selected {c : Column} {places : List Nat} {cell : Cell}
    (h : cell ∈ (c.select places).cells) : cell = .null ∨ cell ∈ c.cells := by
  obtain ⟨i, -, rfl⟩ := List.mem_map.1 h
  rw [List.getD_eq_getElem?_getD]
  cases hcell : c.cells[i]? with
  | none => exact .inl rfl
  | some cell => exact .inr (List.mem_of_getElem? hcell)

theorem Column.Writable.select {c : Column} (h : c.Writable) (places : List Nat) :
    (c.select places).Writable := by
  refine ⟨h.castable, fun hdate days hdays => h.dates hdate days ?_⟩
  exact (Column.mem_selected hdays).resolve_left nofun

theorem Batch.Fits.select (h : b.Fits f) (places : List Nat) : (b.select places).Fits f := by
  intro c hc htype
  rw [column?_select] at hc
  obtain ⟨own, hown, rfl⟩ := Option.map_eq_some_iff.1 hc
  exact (h own hown htype).select places

namespace Collection

variable {c : Collection} {t : Batch}

/-- The batches with a row about a wanted relation. -/
def withWanted (c : Collection) (only : List RelationKey) : List Batch :=
  c.batches.filter fun b => b.rowList.any fun row => only.contains row.key

theorem rows_select_wanted (only : List RelationKey) (b : Batch) :
    decide (0 < (b.select (b.wanted only)).rows) =
      b.rowList.any fun row => only.contains row.key := by
  rw [← Batch.length_rowList, Batch.rowList_select_wanted, Bool.eq_iff_iff, decide_eq_true_iff,
    List.length_pos_iff_exists_mem, List.any_eq_true]
  exact exists_congr fun row => List.mem_filter

theorem batches_retained (c : Collection) (only : List RelationKey) :
    (c.retained only).batches = (c.withWanted only).map fun b => b.select (b.wanted only) := by
  rw [retained, withWanted, List.filter_map]
  refine congrArg _ (List.filter_congr fun b _ => ?_)
  exact rows_select_wanted only b

theorem fieldsOf_retained (c : Collection) (only : List RelationKey) :
    fieldsOf (c.retained only).batches = fieldsOf (c.withWanted only) := by
  rw [batches_retained, fieldsOf, fieldsOf, List.flatMap_map]
  refine List.flatMap_congr fun b _ => ?_
  rw [Batch.select, List.map_map]
  rfl

theorem unifiedFields_retained (c : Collection) (only : List RelationKey) :
    unifiedFields (c.retained only).batches = unifiedFields (c.withWanted only) := by
  rw [unifiedFields_eq, unifiedFields_eq, fieldsOf_retained]

theorem withWanted_subset (c : Collection) (only : List RelationKey) :
    c.withWanted only ⊆ c.batches := by
  intro b hb
  exact (List.mem_filter.1 hb).1

theorem mem_withWanted {i : Nat} (hb : b ∈ c.batches) (hi : i ∈ b.wanted only) :
    b ∈ c.withWanted only := by
  obtain ⟨hlt, hkey⟩ := List.mem_filter.1 hi
  refine List.mem_filter.2 ⟨hb, List.any_eq_true.2 ⟨b.row i, ?_, hkey⟩⟩
  exact List.mem_map_of_mem hlt

/-- Batches that are merged are merged when some of their rows are left. -/
theorem allFit_retained (only : List RelationKey) (h : AllFit c.batches) :
    AllFit (c.retained only).batches := by
  intro b hb f hf
  rw [batches_retained] at hb
  rw [unifiedFields_retained] at hf
  obtain ⟨own, hown, rfl⟩ := List.mem_map.1 hb
  exact (h.subset (c.withWanted_subset only) own hown f hf).select _

/-! ## Rows of what is retained -/

/-- The wanted rows of a table are about the same relations as the rows that are retained. -/
theorem filter_map_key_rowList (only : List RelationKey)
    (hkeys : t.rowList.map Row.key = c.rowList.map Row.key) :
    (t.rowList.map Row.key).filter (fun key => only.contains key) =
      (c.retained only).rowList.map Row.key := by
  rw [hkeys, rowList_retained]
  exact List.filter_map

/-- Of the whole table the rows are wanted that come from wanted rows of the batches. -/
theorem filter_rowList (only : List RelationKey) (hkeyed : c.Keyed) (hfits : AllFit c.batches)
    (hmerged : t.MergedFrom c.batches) :
    (t.rowList.filter fun row => only.contains row.key) =
      c.batches.flatMap fun b => (b.wanted only).map (b.rowUnder (unifiedFields c.batches)) := by
  rw [hmerged.rowList_eq, List.filter_flatMap]
  refine List.flatMap_congr fun b hb => ?_
  rw [Batch.rowsUnder, Batch.wanted, List.filter_map]
  refine congrArg _ (List.filter_congr fun i hi => ?_)
  rw [Function.comp_apply, Batch.key_rowUnder hb (hkeyed b hb) hfits (List.mem_range.1 hi)]

/-- The rows of the table that is left are the wanted rows of the batches under its columns. -/
theorem rowList_of_retained (hmerged : t.MergedFrom (c.retained only).batches) :
    t.rowList = c.batches.flatMap fun b =>
      (b.wanted only).map (b.rowUnder (unifiedFields (c.withWanted only))) := by
  have hempty : ∀ b : Batch, b.rows = 0 → b.rowsUnder (unifiedFields (c.withWanted only)) = [] := by
    intro b hrows
    rw [Batch.rowsUnder, hrows]
    rfl
  rw [hmerged.rowList_eq, unifiedFields_retained, retained, flatMap_filter_rows hempty,
    List.flatMap_map]
  simp only [Batch.rowsUnder_select]

end Collection

/-- What is left of a row under some columns: the value that it had in each, or one of which it had
the text. -/
def Row.LeftAs (fields : List Field) (row left : Row) : Prop :=
  ∀ f ∈ fields, ∃ had has, row.cell? f.name = some had ∧ left.cell? f.name = some has ∧
    (had = has ∨ f.type.toText has = .ok had)

theorem Batch.cellsUnder_congr (b : Batch) (hname : f.name = g.name) (htype : f.type = g.type) :
    b.cellsUnder f = b.cellsUnder g := by
  rw [cellsUnder, cellsUnder, hname, htype]

/-- A row of a batch under all columns, and what is left of it under those of some batches. -/
theorem Batch.leftAs_rowUnder {i : Nat} (hsub : fieldsOf others ⊆ fieldsOf parts)
    (hb : b ∈ others) (hfits : ∀ f ∈ unifiedFields parts, b.Fits f) (hi : i < b.rows) :
    Row.LeftAs (unifiedFields others) (b.rowUnder (unifiedFields parts) i)
      (b.rowUnder (unifiedFields others) i) := by
  intro f hf
  obtain ⟨g, hg, hname, htype⟩ := exists_wider hsub hf
  refine ⟨_, _, hname ▸ cell?_rowUnder hg b i, cell?_rowUnder hf b i, ?_⟩
  by_cases hsame : g.type = f.type
  · rw [b.cellsUnder_congr hname hsame]
    exact .inl rfl
  have hcolumn' : b.column? g.name = b.column? f.name := by rw [hname]
  cases hcolumn : b.column? f.name with
  | none =>
    left
    simp only [cellsUnder, hcolumn', hcolumn]
  | some c =>
    right
    -- the batches that are left agree on their type, so that only under all of them is it a text
    have hown : c.field.type = f.type :=
      (htype.resolve_left hsame).2 _ (mem_fieldsOf hb hcolumn) (name_of_column? hcolumn)
    have hother : c.field.type ≠ g.type := fun heq => hsame (heq.symm.trans hown)
    have hwritable := hfits g hg c (hcolumn'.trans hcolumn) hother
    have hlt : i < c.cells.length := by rwa [length_cells hcolumn]
    simp only [cellsUnder, hcolumn', hcolumn, hown, if_true, if_neg (hown ▸ hother),
      List.getD_eq_getElem?_getD, List.getElem?_map, List.getElem?_eq_getElem hlt, Option.map_some,
      Option.getD_some]
    rw [← hown]
    exact ColumnType.toText_eq_written
      ((Column.writable_iff.1 hwritable).2 _ (List.getElem_mem hlt))

/-- Lists are related element by element if their parts are. -/
theorem forall₂_flatMap {α β γ : Type} {R : β → γ → Prop} {h : α → List β} {k : α → List γ}
    {as : List α} (hparts : ∀ a ∈ as, List.Forall₂ R (h a) (k a)) :
    List.Forall₂ R (as.flatMap h) (as.flatMap k) := by
  induction as with
  | nil => exact .nil
  | cons a rest ih =>
    obtain ⟨hfirst, hrest⟩ := List.forall_mem_cons.1 hparts
    exact List.rel_append hfirst (ih hrest)

namespace Collection

variable {c : Collection} {t left : Batch}

/-- What is left of a table when some keys are retained.

- `fields`: its columns are those of the batches with a row about a wanted relation.
- `columns`: the whole table has them all, with the same type or as texts.
- `keys`, `rows`: of the rows the wanted ones are left, in order, and in each the values that are
  under a column.
- `part_iff`: it has all columns of the table, and exactly its wanted rows, if and only if the batches
  without a wanted row do not matter for the columns. -/
structure KeepsRows (c : Collection) (only : List RelationKey) (t left : Batch) : Prop where
  fields : left.columns.map (·.field) = unifiedFields (c.withWanted only)
  columns : ∀ f ∈ left.columns.map (·.field), ∃ g ∈ t.columns.map (·.field),
    g.name = f.name ∧ (g.type = f.type ∨ g.type = .utf8)
  keys : left.rowList.map Row.key = (t.rowList.map Row.key).filter fun key => only.contains key
  rows : List.Forall₂ (Row.LeftAs (left.columns.map (·.field)))
    (t.rowList.filter fun row => only.contains row.key) left.rowList
  part_iff : (left.columns.map (·.field) = t.columns.map (·.field) ∧
      left.rowList = t.rowList.filter fun row => only.contains row.key) ↔
    unifiedFields (c.withWanted only) = unifiedFields c.batches

end Collection

/-- When some keys of a table are retained, its wanted rows are left, in order, under the columns of
the batches that they come from. -/
theorem retained_table_keeps_rows {c : Collection} {t : Batch} (hkeyed : c.Keyed)
    (htable : c.table = .ok (some t)) (hwanted : ∃ row ∈ t.rowList, only.contains row.key = true) :
    ∃ retained left, c.retain only = .ok retained ∧ retained.failures = c.failures ∧
      retained.table = .ok (some left) ∧ c.KeepsRows only t left := by
  obtain ⟨hfits, hmerged⟩ := Collection.of_table_eq_some hkeyed htable
  have hfields := hmerged.map_field_columns
  have hkeys := Collection.filter_map_key_rowList only
    (Collection.map_key_rowList hkeyed hfits hmerged)
  -- something is left, because a row of the table comes from one of a batch
  have hne : (c.retained only).batches ≠ [] := by
    intro hnil
    obtain ⟨row, hrow, hkey⟩ := hwanted
    have hmem := List.mem_filter.2 ⟨List.mem_map_of_mem hrow, hkey⟩
    rw [hkeys, Collection.rowList, hnil] at hmem
    cases hmem
  have hleftKeyed := Collection.keyed_retained only hkeyed
  have hleftFits := Collection.allFit_retained only hfits
  obtain ⟨left, hleft, hleftMerged⟩ := Collection.exists_table hleftKeyed hne hleftFits
  have hleftKeys := Collection.map_key_rowList hleftKeyed hleftFits hleftMerged
  have hleftFields : left.columns.map (·.field) = unifiedFields (c.withWanted only) :=
    hleftMerged.map_field_columns.trans (c.unifiedFields_retained only)
  have hfiltered := Collection.filter_rowList only hkeyed hfits hmerged
  have hkept := Collection.rowList_of_retained hleftMerged
  refine ⟨c.retained only, left, Collection.retain_eq_retained only hkeyed, rfl, hleft,
    { fields := hleftFields
      columns := ?_
      keys := hleftKeys.trans hkeys.symm
      rows := ?_
      part_iff := ?_ }⟩
  · rw [hleftFields, hfields]
    intro f hf
    obtain ⟨g, hg, hname, htype⟩ := exists_wider (fieldsOf_subset (c.withWanted_subset only)) hf
    exact ⟨g, hg, hname, htype.imp_right And.left⟩
  · rw [hleftFields, hfiltered, hkept]
    refine forall₂_flatMap fun b hb => ?_
    rw [List.forall₂_map_left_iff, List.forall₂_map_right_iff, List.forall₂_same]
    intro i hi
    exact Batch.leftAs_rowUnder (fieldsOf_subset (c.withWanted_subset only))
      (Collection.mem_withWanted hb hi) (hfits b hb) (List.mem_range.1 (List.mem_filter.1 hi).1)
  · rw [hleftFields, hfields, hkept, hfiltered]
    constructor
    · exact And.left
    · intro heq
      rw [heq]
      exact ⟨rfl, rfl⟩

/-- Batches that disagree on how to count rows, one of which names an owner as well. -/
def countedBatches : Collection where
  batches :=
    [{ rows := 1
       columns :=
        [.ofTexts Batch.databaseColumn ["db"], .ofTexts Batch.schemaColumn ["s"],
          .ofTexts Batch.nameColumn ["a"], .holding ⟨"row_count", .int64, true⟩ [.int 7]]
       aligned := by decide },
      { rows := 1
        columns :=
          [.ofTexts Batch.databaseColumn ["db"], .ofTexts Batch.schemaColumn ["s"],
            .ofTexts Batch.nameColumn ["b"], .ofTexts "row_count" ["many"],
            .ofTexts "owner" ["me"]]
        aligned := by decide }]
  failures := []

theorem keyed_countedBatches : countedBatches.Keyed := by
  decide

theorem retained_table_keeps_rows_counted :
    let only := [RelationKey.of "DB" "s" "a"]
    ∃ t, countedBatches.Keyed ∧ countedBatches.table = .ok (some t) ∧
      (∃ row ∈ t.rowList, only.contains row.key = true) ∧
      ∃ retained left, countedBatches.retain only = .ok retained ∧
        retained.failures = countedBatches.failures ∧ retained.table = .ok (some left) ∧
        countedBatches.KeepsRows only t left := by
  intro only
  obtain ⟨t, htable, hwanted⟩ : ∃ t, countedBatches.table = .ok (some t) ∧
      ∃ row ∈ t.rowList, only.contains row.key = true :=
    ⟨_, rfl, _, List.mem_cons_self, rfl⟩
  exact ⟨t, keyed_countedBatches, htable, hwanted,
    retained_table_keeps_rows keyed_countedBatches htable hwanted⟩

/-- The rows of the whole table have owners, and counts that are texts. What is left of the row that
is wanted has no owner, and a count that is a number. -/
theorem retained_table_loses_columns :
    let only := [RelationKey.of "db" "s" "a"]
    ∃ t retained left, countedBatches.Keyed ∧
      countedBatches.table = .ok (some t) ∧ countedBatches.retain only = .ok retained ∧
      retained.table = .ok (some left) ∧
      (t.rowList.filter fun row => only.contains row.key) =
        [[("table_database", .text "db"), ("table_schema", .text "s"), ("table_name", .text "a"),
          ("row_count", .text "7"), ("owner", .null)]] ∧
      left.rowList =
        [[("table_database", .text "db"), ("table_schema", .text "s"), ("table_name", .text "a"),
          ("row_count", .int 7)]] :=
  ⟨_, _, _, keyed_countedBatches, rfl, rfl, rfl, rfl, rfl⟩

end Lakehouse
