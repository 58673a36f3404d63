import Lakehouse.Proofs.Table.Merge

/-!
# Rows of a merged table

A merged table is made column by column. Row by row it is its parts, one after another, each read
under the merged columns; and to read some rows of a part is to read the part and to take these rows.

- `Batch.rowsUnder`: the rows of a part under some columns.
- `Batch.MergedFrom.rowList_eq`: the rows of a merged table are those of its parts under its columns.
- `Batch.key_rowUnder`: under the merged columns a row is about the same relation.
- `Batch.rowsUnder_select`: selecting rows and reading them under some columns commute.
-/

namespace Lakehouse

/-- A list numbered through is the list of its parts, each numbered by itself. -/
theorem map_range_sum {α β : Type} {size : β → Nat} {g : Nat → α} {h : β → Nat → α} {parts : List β}
    (hparts : ∀ before b after, parts = before ++ b :: after →
      ∀ i < size b, g ((before.map size).sum + i) = h b i) :
    (List.range (parts.map size).sum).map g =
      parts.flatMap fun b => (List.range (size b)).map (h b) := by
  induction parts generalizing g with
  | nil => rfl
  | cons b rest ih =>
    have hfirst : (List.range (size b)).map g = (List.range (size b)).map (h b) := by
      refine List.map_congr_left fun i hi => ?_
      have hi := hparts [] b rest rfl i (List.mem_range.1 hi)
      rwa [List.map_nil, List.sum_nil, Nat.zero_add] at hi
    have hrest := ih (g := fun k => g (size b + k)) fun before b' after hrest i hi => by
      have hi := hparts (b :: before) b' after (by rw [hrest, List.cons_append]) i hi
      rwa [List.map_cons, List.sum_cons, Nat.add_assoc] at hi
    rw [List.map_cons, List.sum_cons, List.range_add, List.map_append, List.map_map, hfirst,
      List.flatMap_cons, ← hrest]
    rfl

variable {parts : List Batch} {f : Field}

namespace Batch

/-- A row of a part under some columns. -/
def rowUnder (b : Batch) (fields : List Field) (i : Nat) : Row :=
  fields.map fun f => (f.name, (b.cellsUnder f).getD i .null)

/-- The rows of a part under some columns, in order. -/
def rowsUnder (b : Batch) (fields : List Field) : List Row :=
  (List.range b.rows).map (b.rowUnder fields)

end Batch

theorem Batch.MergedFrom.map_field_columns {t : Batch} (h : t.MergedFrom parts) :
    t.columns.map (·.field) = unifiedFields parts := by
  rw [h.columns, List.map_map]
  exact List.map_id _

/-- The rows of a merged table are those of its parts under its columns, part after part. -/
theorem Batch.MergedFrom.rowList_eq {t : Batch} (h : t.MergedFrom parts) :
    t.rowList = parts.flatMap fun b => b.rowsUnder (unifiedFields parts) := by
  rw [Batch.rowList, h.rows]
  refine map_range_sum fun before b after hparts i hi => ?_
  rw [Batch.row, h.columns, List.map_map, Batch.rowUnder]
  refine List.map_congr_left fun f hf => ?_
  rw [Function.comp_apply, List.getD_eq_getElem?_getD, List.getD_eq_getElem?_getD,
    getElem?_mergedColumn hparts hf hi]
  rfl

/-! ## What rows are about -/

namespace Batch

variable {b : Batch} {i : Nat}

theorem cell?_rowUnder (hf : f ∈ unifiedFields parts) (b : Batch) (i : Nat) :
    (b.rowUnder (unifiedFields parts) i).cell? f.name = some ((b.cellsUnder f).getD i .null) := by
  have hfound : (unifiedFields parts).find? ((fun entry : String × Cell => entry.1 == f.name) ∘
      fun f => (f.name, (b.cellsUnder f).getD i .null)) = some f := find?_unifiedFields hf
  rw [Row.cell?, rowUnder, List.find?_map, hfound]
  rfl

/-- A text column of a part has the same texts under the merged column of its name. -/
theorem text_rowUnder {name : String} (hb : b ∈ parts) (h : b.HoldsTexts name)
    (hfits : AllFit parts) (hi : i < b.rows) :
    (b.rowUnder (unifiedFields parts) i).text name = (b.row i).text name := by
  obtain ⟨c, hc, htext⟩ := h
  obtain rfl := name_of_column? hc
  have hmem := mergedField_mem (mem_fieldsOf hb hc)
  obtain ⟨cell, hcell, hholds⟩ := exists_holds_cellsUnder (hfits b hb _ hmem) hi
  have hsame := hholds.text?_eq hc htext
  have hunder : (b.rowUnder (unifiedFields parts) i).cell? c.field.name = some cell := by
    rw [← Option.getD_some (a := cell) (b := .null), ← hcell, ← List.getD_eq_getElem?_getD]
    exact cell?_rowUnder hmem b i
  rw [Row.text, Row.text, hunder, cell?_row, hc, Option.map_some, Option.bind_some,
    Option.bind_some, hsame]

/-- Under the merged columns a row is about the same relation. -/
theorem key_rowUnder (hb : b ∈ parts) (h : b.HasKeyColumns)
    (hfits : AllFit parts) (hi : i < b.rows) :
    (b.rowUnder (unifiedFields parts) i).key = (b.row i).key := by
  rw [Row.key, Row.key, text_rowUnder hb h.database hfits hi, text_rowUnder hb h.schema hfits hi,
    text_rowUnder hb h.relation hfits hi]

/-! ## Selecting rows -/

theorem cellsUnder_select (b : Batch) (places : List Nat) (f : Field) :
    (b.select places).cellsUnder f = places.map fun i => (b.cellsUnder f).getD i .null := by
  unfold cellsUnder
  rw [column?_select]
  cases b.column? f.name with
  | none =>
    have hnull : ∀ i, (List.replicate b.rows Cell.null).getD i .null = .null := by
      intro i
      rw [List.getD_eq_getElem?_getD, List.getElem?_replicate]
      split <;> rfl
    simp only [Option.map_none, hnull, List.map_const']
    rfl
  | some c =>
    have hwritten : ∀ i, (c.cells.map c.field.type.written).getD i .null =
        c.field.type.written (c.cells.getD i .null) := by
      intro i
      rw [List.getD_eq_getElem?_getD, List.getD_eq_getElem?_getD, List.getElem?_map]
      cases c.cells[i]? <;> simp
    simp only [Option.map_some, Column.select]
    split
    · rfl
    · simp only [List.map_map, hwritten]
      rfl

/-- Selected rows are read as the rows of the part are. -/
theorem rowsUnder_select (b : Batch) (places : List Nat) (fields : List Field) :
    (b.select places).rowsUnder fields = places.map (b.rowUnder fields) := by
  refine List.ext_getElem (by simp [rowsUnder, select]) fun j hj hj' => ?_
  have hlt : j < places.length := by simpa using hj'
  simp [rowsUnder, rowUnder, cellsUnder_select, hlt]

end Batch

end Lakehouse
