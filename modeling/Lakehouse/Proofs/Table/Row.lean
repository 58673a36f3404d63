import Lakehouse.Table.Batch
import Lakehouse.Metadata.Collection
import Lakehouse.Proofs.Answer

/-!
# Rows of a batch

A batch is columns; what is said about metadata is said about rows. A row keeps every value of a
batch at one place under the name of its column.

- `Batch.rowList`: the rows of a batch, in order; `rowList_select` says which are left of a
  selection.
- `Row.key`: the key of the relation that a row is about.
- `Batch.HasKeyColumns`: the columns that name the relation are there and hold texts. Exactly then
  `Batch.keys` answers (`keys_ok_iff`), with the keys of the rows (`keys_eq`).
- `retain_eq_select`: retaining some keys selects the rows with these keys.
- `Batch.ofRelations`: a batch with one row for each of some relations.
-/

namespace Lakehouse

/-- A row: values with the names of their columns. -/
abbrev Row : Type := List (String × Cell)

namespace Row

/-- The value in the first column of a name. -/
def cell? (row : Row) (name : String) : Option Cell :=
  (row.find? fun entry => entry.1 == name).map Prod.snd

/-- The text in the first column of a name, empty where there is none. -/
def text (row : Row) (name : String) : String :=
  ((row.cell? name).bind Cell.text?).getD ""

/-- The key of the relation that the row is about. -/
def key (row : Row) : RelationKey :=
  .of (row.text Batch.databaseColumn) (row.text Batch.schemaColumn) (row.text Batch.nameColumn)

end Row

namespace Batch

variable {b : Batch} {name : String}

/-- The values at one place. -/
def row (b : Batch) (i : Nat) : Row :=
  b.columns.map fun c => (c.field.name, c.cells.getD i .null)

/-- The rows, in order. -/
def rowList (b : Batch) : List Row :=
  (List.range b.rows).map b.row

@[simp] theorem length_rowList (b : Batch) : b.rowList.length = b.rows := by
  simp [rowList]

/-- The rows of a selection are the rows at the selected places. -/
theorem rowList_select (b : Batch) (places : List Nat) :
    (b.select places).rowList = places.map b.row := by
  refine List.ext_getElem (by simp [select]) fun j hj hj' => ?_
  have hlt : j < places.length := by simpa using hj'
  simp [rowList, row, select, Column.select, hlt]

/-! ## Key columns -/

/-- The first column of the name holds texts. -/
def HoldsTexts (b : Batch) (name : String) : Prop :=
  ∃ c, b.column? name = some c ∧ c.field.type.isText = true

/-- The columns that name a row's relation are there and hold texts. -/
structure HasKeyColumns (b : Batch) : Prop where
  database : b.HoldsTexts databaseColumn
  schema : b.HoldsTexts schemaColumn
  relation : b.HoldsTexts nameColumn

instance (b : Batch) (name : String) : Decidable (b.HoldsTexts name) :=
  decidable_of_iff ((b.column? name).any (·.field.type.isText) = true) (Option.any_eq_true _ _)

instance (b : Batch) : Decidable b.HasKeyColumns :=
  decidable_of_iff
    (b.HoldsTexts databaseColumn ∧ b.HoldsTexts schemaColumn ∧ b.HoldsTexts nameColumn)
    ⟨fun ⟨hdatabase, hschema, hrelation⟩ => ⟨hdatabase, hschema, hrelation⟩,
      fun h => ⟨h.database, h.schema, h.relation⟩⟩

theorem cells_eq {c : Column} (h : c ∈ b.columns) :
    c.cells = (List.range b.rows).map fun i => c.cells.getD i .null := by
  refine List.ext_getElem (by simp [b.aligned c h]) fun i hi hi' => ?_
  simp [hi]

theorem cell?_row (b : Batch) (i : Nat) (name : String) :
    (b.row i).cell? name = (b.column? name).map fun c => c.cells.getD i .null := by
  simp only [Row.cell?, row, column?, List.find?_map, Option.map_map]
  rfl

/-- The texts of a column are those of the rows. -/
theorem texts_eq (h : b.HoldsTexts name) :
    b.texts name = .ok (b.rowList.map fun row => (row.cell? name).bind Cell.text?) := by
  obtain ⟨c, hc, htext⟩ := h
  have hcells := cells_eq (List.mem_of_find?_eq_some hc)
  have hrow : ∀ i, (b.row i).cell? name = some (c.cells.getD i .null) := by
    intro i
    rw [cell?_row, hc]
    rfl
  simp only [texts, column, hc, htext, if_true, rowList, List.map_map]
  -- the cells on the left only, since the rows on the right read the same column
  conv => lhs; rw [hcells, List.map_map]
  refine congrArg _ (List.map_congr_left fun i _ => ?_)
  simp only [Function.comp_apply, hrow, Option.bind_some]

theorem texts_ok_iff : (∃ texts, b.texts name = .ok texts) ↔ b.HoldsTexts name := by
  constructor
  · rintro ⟨texts, h⟩
    unfold Batch.texts column at h
    split at h
    · cases h
    · next c hc =>
      refine ⟨c, ?_, ?_⟩
      · split at hc
        · next hfound => exact (Except.ok.inj hc) ▸ hfound
        · cases hc
      · split at h
        · next htext => exact htext
        · cases h
  · intro h
    exact ⟨_, texts_eq h⟩

theorem keysOf_map {α : Type} (f g h : α → Option String) (as : List α) :
    keysOf (as.map f) (as.map g) (as.map h) =
      as.map fun a => .of ((f a).getD "") ((g a).getD "") ((h a).getD "") := by
  induction as with
  | nil => rfl
  | cons a rest ih => simp only [List.map_cons, keysOf, ih]

/-- The keys of a batch are those of its rows. -/
theorem keys_eq (h : b.HasKeyColumns) : b.keys = .ok (b.rowList.map Row.key) := by
  simp only [keys, texts_eq h.database, texts_eq h.schema, texts_eq h.relation, bind, Except.bind,
    keysOf_map]
  rfl

/-- A batch has keys exactly if it has the columns that give them. -/
theorem keys_ok_iff : (∃ keys, b.keys = .ok keys) ↔ b.HasKeyColumns := by
  constructor
  · rintro ⟨keys, h⟩
    unfold Batch.keys at h
    cases hd : b.texts databaseColumn with
    | error f => simp [hd, bind, Except.bind] at h
    | ok databases =>
      cases hs : b.texts schemaColumn with
      | error f => simp [hd, hs, bind, Except.bind] at h
      | ok schemas =>
        cases hn : b.texts nameColumn with
        | error f => simp [hd, hs, hn, bind, Except.bind] at h
        | ok names =>
          exact ⟨texts_ok_iff.1 ⟨_, hd⟩, texts_ok_iff.1 ⟨_, hs⟩, texts_ok_iff.1 ⟨_, hn⟩⟩
  · intro h
    exact ⟨_, keys_eq h⟩

/-! ## Retaining some keys -/

/-- A selection has the first column of a name where the batch has it. -/
theorem column?_select (b : Batch) (places : List Nat) (name : String) :
    (b.select places).column? name = (b.column? name).map (·.select places) := by
  simp only [column?, select, List.find?_map]
  rfl

theorem HoldsTexts.select (h : b.HoldsTexts name) (places : List Nat) :
    (b.select places).HoldsTexts name := by
  obtain ⟨c, hc, htext⟩ := h
  refine ⟨c.select places, ?_, htext⟩
  rw [column?_select, hc]
  rfl

/-- A selection has the columns of the batch. -/
theorem HasKeyColumns.select (h : b.HasKeyColumns) (places : List Nat) :
    (b.select places).HasKeyColumns :=
  ⟨h.database.select places, h.schema.select places, h.relation.select places⟩

/-- The places of wanted keys, where the keys are given place by place. -/
theorem wantedPlaces_map_range (only : List RelationKey) (f : Nat → RelationKey) (n : Nat) :
    wantedPlaces only ((List.range n).map f) =
      (List.range n).filter fun i => only.contains (f i) := by
  have hzip : ((List.range n).map f).zipIdx = (List.range n).map fun i => (f i, i) := by
    refine List.ext_getElem (by simp) fun i hi hi' => ?_
    simp
  rw [wantedPlaces, hzip, List.filter_map, List.map_map]
  exact List.map_id _

/-- The places of the rows that are about wanted relations. -/
def wanted (only : List RelationKey) (b : Batch) : List Nat :=
  (List.range b.rows).filter fun i => only.contains (b.row i).key

/-- Retaining some keys selects the rows that are about them. -/
theorem retain_eq_select (only : List RelationKey) (h : b.HasKeyColumns) :
    b.retain only = .ok (b.select (b.wanted only)) := by
  rw [retain, keys_eq h, rowList, List.map_map]
  exact congrArg (fun places => Except.ok (b.select places)) (wantedPlaces_map_range only _ _)

/-- Retaining some keys leaves the rows with these keys, in order. -/
theorem rowList_select_wanted (only : List RelationKey) (b : Batch) :
    (b.select (b.wanted only)).rowList = b.rowList.filter fun row => only.contains row.key := by
  rw [rowList_select, rowList, wanted, List.filter_map]
  rfl

end Batch

/-! ## Batches of names -/

/-- A column of texts. -/
def Column.ofTexts (name : String) (texts : List String) : Column where
  field := ⟨name, .utf8, false⟩
  cells := texts.map .text
  typed := by
    intro cell hcell
    obtain ⟨s, -, rfl⟩ := List.mem_map.1 hcell
    exact .inr rfl

/-- A batch with one row for each relation. -/
def Batch.ofRelations (relations : List Relation) : Batch where
  rows := relations.length
  columns :=
    [.ofTexts databaseColumn (relations.map Relation.database),
      .ofTexts schemaColumn (relations.map Relation.schema),
      .ofTexts nameColumn (relations.map Relation.identifier)]
  aligned := by simp [Column.ofTexts]

/-- The row of a relation of which nothing but the name is known. -/
def Row.ofRelation (r : Relation) : Row :=
  [(Batch.databaseColumn, .text r.database), (Batch.schemaColumn, .text r.schema),
    (Batch.nameColumn, .text r.identifier)]

theorem Batch.rowList_ofRelations (relations : List Relation) :
    (Batch.ofRelations relations).rowList = relations.map Row.ofRelation := by
  refine List.ext_getElem (by simp [ofRelations]) fun i hi hi' => ?_
  have hlt : i < relations.length := by simpa using hi'
  simp [rowList, row, ofRelations, Column.ofTexts, Row.ofRelation, hlt]

theorem Batch.hasKeyColumns_ofRelations (relations : List Relation) :
    (Batch.ofRelations relations).HasKeyColumns :=
  ⟨⟨_, rfl, rfl⟩, ⟨_, rfl, rfl⟩, ⟨_, rfl, rfl⟩⟩

end Lakehouse
