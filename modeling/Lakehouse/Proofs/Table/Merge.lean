import Lakehouse.Proofs.Table.Cell
import Lakehouse.Proofs.Table.Row
import Mathlib.Algebra.GroupWithZero.Nat
import Mathlib.Data.List.Induction

/-!
# What a merged table holds

The columns of a merged table are found by a vote, one column of a part after another, and every
part is then read under the columns that were found. Here both are described by what they come to.

- `unifiedFields_eq`: one column for every name, in order of first appearance. `TypesDiffer` says of
  a name that its columns disagree on their type. If they do, the merged column holds texts
  (`type_mergedField_of_differ`), and if not, it has the type of them all
  (`type_mergedField_of_same`).
- `Batch.Holds`: what a part holds in a row under a merged column.
- `Batch.Fits`: a part can be read under a merged column. Parts are merged if all of them fit
  (`exists_mergeParts`), and only then (`allFit_of_mergeParts`); where one does not, its column is
  one of those whose types differ and cannot be written as texts (`allFit_iff`).
- `cells_mergedColumn`: what the parts have under a merged column may stand in it, and so none of it
  is lost when it becomes one.
- `Batch.MergedFrom`: a table has the merged columns of some parts. Merging makes such a table
  (`mergedFrom_of_mergeParts`).
- `exists_holds_flatMap`: the values of a merged column are those that the parts hold under it, part
  after part and row after row.
-/

namespace Lakehouse

/-! ## The columns of the merged table -/

/-- The columns of some parts, in order. -/
def fieldsOf (parts : List Batch) : List Field :=
  parts.flatMap fun b => b.columns.map (·.field)

/-- Two columns of the name differ in their types. -/
def TypesDiffer (fields : List Field) (name : String) : Prop :=
  ∃ f ∈ fields, ∃ g ∈ fields, f.name = name ∧ g.name = name ∧ f.type ≠ g.type

/-- The type that all the given ones are, or else that of texts. -/
def commonType : List ColumnType → ColumnType
  | [] => .utf8
  | t :: ts => if ts.all (· == t) then t else .utf8

/-- The types of the columns of a name. -/
def typesNamed (fields : List Field) (name : String) : List ColumnType :=
  (fields.filter fun f => f.name = name).map (·.type)

/-- The merged column of a name. -/
def mergedField (fields : List Field) (name : String) : Field :=
  ⟨name, commonType (typesNamed fields name), true⟩

variable {fields : List Field} {f : Field} {name : String}

theorem commonType_of_forall {t : ColumnType} {ts : List ColumnType} (hne : ts ≠ [])
    (h : ∀ s ∈ ts, s = t) : commonType ts = t := by
  cases ts with
  | nil => exact absurd rfl hne
  | cons s rest =>
    obtain rfl := h s List.mem_cons_self
    refine if_pos (List.all_eq_true.2 fun u hu => ?_)
    rw [h u (List.mem_cons_of_mem _ hu), beq_self_eq_true]

theorem commonType_of_ne {s t : ColumnType} {ts : List ColumnType} (hs : s ∈ ts) (ht : t ∈ ts)
    (hne : s ≠ t) : commonType ts = .utf8 := by
  cases ts with
  | nil => cases hs
  | cons u rest =>
    refine if_neg fun hall => hne ?_
    have heq : ∀ v ∈ u :: rest, v = u :=
      List.forall_mem_cons.2 ⟨rfl, fun v hv => eq_of_beq (List.all_eq_true.1 hall v hv)⟩
    rw [heq s hs, heq t ht]

theorem commonType_append {t : ColumnType} {ts : List ColumnType} (hne : ts ≠ []) :
    commonType (ts ++ [t]) = if commonType ts = t then t else .utf8 := by
  cases ts with
  | nil => exact absurd rfl hne
  | cons s rest =>
    rw [List.cons_append, commonType, commonType, List.all_append, List.all_cons, List.all_nil,
      Bool.and_true]
    cases hall : rest.all (· == s)
    · simp
    · by_cases hst : s = t
      · simp [hst]
      · simp [hst, Ne.symm hst]

theorem mem_typesNamed {t : ColumnType} :
    t ∈ typesNamed fields name ↔ ∃ f ∈ fields, f.name = name ∧ f.type = t := by
  simp [typesNamed, and_assoc]

/-- Where types differ, the merged column holds texts. -/
theorem type_mergedField_of_differ (h : TypesDiffer fields name) :
    (mergedField fields name).type = .utf8 := by
  obtain ⟨f, hf, g, hg, hfname, hgname, hne⟩ := h
  exact commonType_of_ne (mem_typesNamed.2 ⟨f, hf, hfname, rfl⟩)
    (mem_typesNamed.2 ⟨g, hg, hgname, rfl⟩) hne

/-- Where types do not differ, the merged column has the type of every column of its name. -/
theorem type_mergedField_of_same (h : ¬ TypesDiffer fields f.name) (hf : f ∈ fields) :
    (mergedField fields f.name).type = f.type := by
  have hmem : f.type ∈ typesNamed fields f.name := mem_typesNamed.2 ⟨f, hf, rfl, rfl⟩
  refine commonType_of_forall (List.ne_nil_of_mem hmem) fun t ht => ?_
  obtain ⟨g, hg, hname, rfl⟩ := mem_typesNamed.1 ht
  exact Decidable.byContradiction fun hne => h ⟨g, hg, f, hf, hname, rfl, hne⟩

theorem typesNamed_append (fields : List Field) (f : Field) (name : String) :
    typesNamed (fields ++ [f]) name =
      if f.name = name then typesNamed fields name ++ [f.type] else typesNamed fields name := by
  by_cases h : f.name = name <;> simp [typesNamed, h]

/-! ## The vote -/

/-- Removing repeats keeps what is added at the end if it is new. -/
theorem eraseDups_concat (names : List String) (name : String) :
    (names ++ [name]).eraseDups =
      if name ∈ names then names.eraseDups else names.eraseDups ++ [name] := by
  by_cases h : name ∈ names <;>
    simp [List.eraseDups_append, List.removeAll, List.eraseDups_cons, h]

theorem nodup_eraseDups (names : List String) : names.eraseDups.Nodup := by
  induction names using List.reverseRecOn with
  | nil => exact List.nodup_nil
  | append_singleton names name ih =>
    rw [eraseDups_concat]
    split
    · exact ih
    · next hnew =>
      refine List.nodup_append.2 ⟨ih, List.pairwise_singleton _ _, ?_⟩
      intro n hn m hm
      rw [List.mem_singleton.1 hm]
      rintro rfl
      exact hnew (List.mem_eraseDups.1 hn)

/-- A column of a new name is added at the end. -/
theorem addField_of_not_mem {merged : List Field} (h : f.name ∉ merged.map (·.name)) :
    addField f merged = merged ++ [{ f with nullable := true }] := by
  induction merged with
  | nil => rfl
  | cons g rest ih =>
    rw [List.map_cons, List.mem_cons, not_or] at h
    rw [addField, if_neg (Ne.symm h.1), ih h.2, List.cons_append]

/-- A column of a name that is there changes the column of that name only. -/
theorem addField_map {names : List String} {m m' : String → Field} (hnodup : names.Nodup)
    (hname : ∀ n, (m n).name = n) (hmem : f.name ∈ names)
    (hvote : m' f.name = if (m f.name).type = f.type then m f.name else ⟨f.name, .utf8, true⟩)
    (hother : ∀ n ∈ names, n ≠ f.name → m' n = m n) :
    addField f (names.map m) = names.map m' := by
  induction names with
  | nil => cases hmem
  | cons n rest ih =>
    rw [List.nodup_cons] at hnodup
    rw [List.map_cons, List.map_cons, addField, hname]
    by_cases hn : n = f.name
    · subst hn
      have hrest : ∀ k ∈ rest, m k = m' k := by
        intro k hk
        refine (hother k (List.mem_cons_of_mem _ hk) ?_).symm
        rintro rfl
        exact hnodup.1 hk
      rw [if_pos rfl, hvote, List.map_congr_left hrest]
    · have hmem : f.name ∈ rest := (List.mem_cons.1 hmem).resolve_left (Ne.symm hn)
      rw [if_neg hn, hother n List.mem_cons_self hn,
        ih hnodup.2 hmem fun k hk => hother k (List.mem_cons_of_mem _ hk)]

/-- The vote of one more column. -/
theorem addField_mergedFields (fields : List Field) (f : Field) :
    addField f ((fields.map (·.name)).eraseDups.map (mergedField fields)) =
      ((fields ++ [f]).map (·.name)).eraseDups.map (mergedField (fields ++ [f])) := by
  have hother : ∀ n, n ≠ f.name → mergedField (fields ++ [f]) n = mergedField fields n := by
    intro n hn
    rw [mergedField, mergedField, typesNamed_append, if_neg (Ne.symm hn)]
  rw [List.map_append, List.map_singleton, eraseDups_concat]
  split
  · next hmem =>
    have htypes : typesNamed fields f.name ≠ [] := by
      obtain ⟨g, hg, hname⟩ := List.mem_map.1 hmem
      exact List.ne_nil_of_mem (mem_typesNamed.2 ⟨g, hg, hname, rfl⟩)
    refine addField_map (nodup_eraseDups _) (fun n => rfl) (List.mem_eraseDups.2 hmem) ?_
      fun n _ hn => hother n hn
    rw [mergedField, typesNamed_append, if_pos rfl, commonType_append htypes, mergedField]
    dsimp only
    split
    · next heq => rw [heq]
    · rfl
  · next hnew =>
    have htypes : typesNamed fields f.name = [] := by
      refine List.eq_nil_iff_forall_not_mem.2 fun t ht => hnew ?_
      obtain ⟨g, hg, hname, -⟩ := mem_typesNamed.1 ht
      exact List.mem_map.2 ⟨g, hg, hname⟩
    have hlast : mergedField (fields ++ [f]) f.name = { f with nullable := true } := by
      rw [mergedField, typesNamed_append, if_pos rfl, htypes]
      rfl
    have hkept : ∀ n ∈ (fields.map (·.name)).eraseDups,
        mergedField (fields ++ [f]) n = mergedField fields n := by
      intro n hn
      refine hother n ?_
      rintro rfl
      exact hnew (List.mem_eraseDups.1 hn)
    rw [List.map_append, List.map_singleton, hlast, List.map_congr_left hkept]
    refine addField_of_not_mem ?_
    simpa [mergedField] using hnew

/-- The merged table has one column for every name, in order of first appearance. -/
theorem unifiedFields_eq (parts : List Batch) :
    unifiedFields parts =
      ((fieldsOf parts).map (·.name)).eraseDups.map (mergedField (fieldsOf parts)) := by
  have hvote : ∀ fields : List Field, fields.foldl (fun merged f => addField f merged) [] =
      (fields.map (·.name)).eraseDups.map (mergedField fields) := by
    intro fields
    induction fields using List.reverseRecOn with
    | nil => rfl
    | append_singleton fields f ih =>
      rw [List.foldl_append, ih, List.foldl_cons, List.foldl_nil, addField_mergedFields]
  exact hvote _

variable {parts : List Batch}

/-- A column of the merged table is the merged column of its name. -/
theorem eq_mergedField (hf : f ∈ unifiedFields parts) :
    f = mergedField (fieldsOf parts) f.name := by
  rw [unifiedFields_eq] at hf
  obtain ⟨name, -, rfl⟩ := List.mem_map.1 hf
  rfl

/-- Every column of a part is merged into one of its name. -/
theorem mergedField_mem (hf : f ∈ fieldsOf parts) :
    mergedField (fieldsOf parts) f.name ∈ unifiedFields parts := by
  rw [unifiedFields_eq]
  exact List.mem_map.2 ⟨_, List.mem_eraseDups.2 (List.mem_map.2 ⟨f, hf, rfl⟩), rfl⟩

/-- A merged column is found under its name. -/
theorem find?_unifiedFields (hf : f ∈ unifiedFields parts) :
    (unifiedFields parts).find? (fun g => g.name == f.name) = some f := by
  cases hfind : (unifiedFields parts).find? fun g => g.name == f.name with
  | none => exact absurd (beq_self_eq_true f.name) (List.find?_eq_none.1 hfind f hf)
  | some g =>
    have hname : g.name = f.name := by simpa using List.find?_some hfind
    rw [eq_mergedField hf, eq_mergedField (List.mem_of_find?_eq_some hfind), hname]

theorem columnNames_unifiedFields (parts : List Batch) :
    (unifiedFields parts).map (·.name) = (parts.flatMap Batch.columnNames).eraseDups := by
  have hnames : (fieldsOf parts).map (·.name) = parts.flatMap Batch.columnNames := by
    simp only [fieldsOf, List.map_flatMap, List.map_map]
    rfl
  rw [unifiedFields_eq, List.map_map, hnames]
  exact List.map_id _

/-! ## A part under a merged column -/

namespace Batch

variable {b : Batch} {i : Nat}

/-- What a part holds in a row under a merged column: null if it has no column of that name, the
value in the first one if that has the type of the merged column, and else that value as a text. -/
inductive Holds (b : Batch) (f : Field) (i : Nat) : Cell → Prop
  | absent (hcolumn : b.column? f.name = none) : Holds b f i .null
  | same {c : Column} {cell : Cell} (hcolumn : b.column? f.name = some c)
      (htype : c.field.type = f.type) (hcell : c.cells[i]? = some cell) : Holds b f i cell
  | text {c : Column} {cell text : Cell} (hcolumn : b.column? f.name = some c)
      (htype : c.field.type ≠ f.type) (hcell : c.cells[i]? = some cell)
      (htext : c.field.type.toText cell = .ok text) : Holds b f i text

/-- The part can be read under a merged column: where its own has another type, that can be written
as texts. -/
def Fits (b : Batch) (f : Field) : Prop :=
  ∀ c, b.column? f.name = some c → c.field.type ≠ f.type → c.Writable

/-- The values of a part under a merged column that it fits. -/
def cellsUnder (b : Batch) (f : Field) : List Cell :=
  match b.column? f.name with
  | none => List.replicate b.rows .null
  | some c => if c.field.type = f.type then c.cells else c.cells.map c.field.type.written

theorem name_of_column? {c : Column} (h : b.column? name = some c) : c.field.name = name := by
  simpa using List.find?_some h

theorem length_cells {c : Column} (h : b.column? name = some c) : c.cells.length = b.rows :=
  b.aligned c (List.mem_of_find?_eq_some h)

theorem length_cellsUnder (b : Batch) (f : Field) : (b.cellsUnder f).length = b.rows := by
  unfold cellsUnder
  split
  · exact List.length_replicate
  · next c hc =>
    split
    · exact length_cells hc
    · rw [List.length_map, length_cells hc]

theorem conformTo_eq (h : b.Fits f) : b.conformTo f = .ok (b.cellsUnder f) := by
  cases hcolumn : b.column? f.name with
  | none => simp only [conformTo, cellsUnder, hcolumn]
  | some c =>
    by_cases htype : c.field.type = f.type
    · simp only [conformTo, cellsUnder, hcolumn, htype, if_true]
    · obtain ⟨hcast, htexts⟩ := Column.writable_iff.1 (h c hcolumn htype)
      simp only [conformTo, cellsUnder, hcolumn, htype, hcast, if_false, if_true]
      exact mapM_eq_map fun cell hcell => ColumnType.toText_eq_written (htexts cell hcell)

theorem fits_of_conformTo {cells : List Cell} (h : b.conformTo f = .ok cells) : b.Fits f := by
  intro c hc htype
  simp only [conformTo, hc, htype, if_false] at h
  split at h
  · next hcast =>
    refine Column.writable_iff.2 ⟨hcast, fun cell hcell => ?_⟩
    obtain ⟨text, -, htext⟩ := exists_of_mapM_ok h hcell
    exact ⟨text, htext⟩
  · cases h

/-- The values under a merged column are what the part holds in its rows. -/
theorem exists_holds_cellsUnder (h : b.Fits f) (hi : i < b.rows) :
    ∃ cell, (b.cellsUnder f)[i]? = some cell ∧ b.Holds f i cell := by
  unfold cellsUnder
  split
  · next hcolumn => exact ⟨.null, by simp [hi], .absent hcolumn⟩
  · next c hcolumn =>
    have hlt : i < c.cells.length := by rwa [length_cells hcolumn]
    have hcell : c.cells[i]? = some c.cells[i] := List.getElem?_eq_getElem hlt
    split
    · next htype => exact ⟨_, hcell, .same hcolumn htype hcell⟩
    · next htype =>
      have htexts := (Column.writable_iff.1 (h c hcolumn htype)).2
      refine ⟨_, by rw [List.getElem?_map, hcell]; rfl, .text hcolumn htype hcell ?_⟩
      exact ColumnType.toText_eq_written (htexts _ (List.getElem_mem hlt))

/-- Under a merged column of texts or of its own type, a part holds the texts of its own column. -/
theorem Holds.text?_eq {cell : Cell} {c : Column} (h : b.Holds f i cell)
    (hc : b.column? f.name = some c) (htext : c.field.type.isText = true) :
    cell.text? = (c.cells.getD i .null).text? := by
  cases h with
  | absent hcolumn => rw [hcolumn] at hc; cases hc
  | same hcolumn _ hcell =>
    obtain rfl : c = _ := Option.some.inj (hc.symm.trans hcolumn)
    rw [List.getD_eq_getElem?_getD, hcell, Option.getD_some]
  | text hcolumn _ hcell hwritten =>
    obtain rfl : c = _ := Option.some.inj (hc.symm.trans hcolumn)
    rw [ColumnType.toText_of_isText htext (c.typed _ (List.mem_of_getElem? hcell))] at hwritten
    rw [List.getD_eq_getElem?_getD, hcell, Option.getD_some, Except.ok.inj hwritten]

/-- Nullable columns of one length make a batch. -/
theorem exists_build_eq {columns : List Column} {rows : Nat} (hne : columns ≠ [])
    (hnullable : ∀ c ∈ columns, c.field.nullable = true)
    (hlength : ∀ c ∈ columns, c.cells.length = rows) :
    ∃ t, build columns none = .ok t ∧ t.rows = rows ∧ t.columns = columns := by
  refine ⟨⟨rows, columns, hlength⟩, ?_, rfl, rfl⟩
  have hrows : (none : Option Nat).or (columns.head?.map (·.cells.length)) = some rows := by
    obtain ⟨c, rest, rfl⟩ := List.exists_cons_of_ne_nil hne
    rw [List.head?_cons, Option.map_some, hlength c List.mem_cons_self, Option.none_or]
  have hnull : (columns.find? fun c => !c.field.nullable && 0 < c.recordedNulls) = none := by
    refine List.find?_eq_none.2 fun c hc => ?_
    simp [hnullable c hc]
  simp only [build, hrows, hnull, ofAligned?, dif_pos hlength]

end Batch

/-! ## The merged table -/

/-- The columns that parts have first of a name are among their columns. -/
theorem mem_fieldsOf {b : Batch} {c : Column} (hb : b ∈ parts) (hc : b.column? name = some c) :
    c.field ∈ fieldsOf parts :=
  List.mem_flatMap.2 ⟨b, hb, List.mem_map.2 ⟨c, List.mem_of_find?_eq_some hc, rfl⟩⟩

/-- Where a part has another type than the merged column, types differ. -/
theorem typesDiffer_of_ne {b : Batch} {c : Column} (hb : b ∈ parts) (hf : f ∈ unifiedFields parts)
    (hc : b.column? f.name = some c) (hne : c.field.type ≠ f.type) :
    TypesDiffer (fieldsOf parts) f.name := by
  refine Classical.byContradiction fun hsame => hne ?_
  have hname := Batch.name_of_column? hc
  rw [eq_mergedField hf, ← hname]
  exact (type_mergedField_of_same (hname ▸ hsame) (mem_fieldsOf hb hc)).symm

/-- The values of a part under a merged column may stand in it. -/
theorem holds_of_mem_cellsUnder {b : Batch} {cell : Cell} (hb : b ∈ parts)
    (hf : f ∈ unifiedFields parts) (hcell : cell ∈ b.cellsUnder f) : f.type.Holds cell := by
  unfold Batch.cellsUnder at hcell
  split at hcell
  · exact .inl (List.eq_of_mem_replicate hcell)
  · next c hc =>
    split at hcell
    · next htype => exact htype ▸ c.typed cell hcell
    · next htype =>
      obtain ⟨value, -, rfl⟩ := List.mem_map.1 hcell
      rw [eq_mergedField hf, type_mergedField_of_differ (typesDiffer_of_ne hb hf hc htype)]
      exact c.field.type.holds_written value

/-- A merged column: what its type holds for the values of every part under it, in order. -/
def mergedColumn (parts : List Batch) (f : Field) : Column :=
  .holding f (parts.flatMap fun b => b.cellsUnder f)

/-- The values of every part are held as they are. -/
theorem cells_mergedColumn (hf : f ∈ unifiedFields parts) :
    (mergedColumn parts f).cells = parts.flatMap fun b => b.cellsUnder f := by
  have hheld : ∀ cell ∈ parts.flatMap fun b => b.cellsUnder f, f.type.hold cell = cell := by
    intro cell hcell
    obtain ⟨b, hb, hcell⟩ := List.mem_flatMap.1 hcell
    exact ColumnType.hold_of_holds (holds_of_mem_cellsUnder hb hf hcell)
  exact (List.map_congr_left hheld).trans (List.map_id _)

theorem length_flatMap_cellsUnder (parts : List Batch) (f : Field) :
    (parts.flatMap fun b => b.cellsUnder f).length = (parts.map Batch.rows).sum := by
  rw [List.length_flatMap]
  exact congrArg _ (List.map_congr_left fun b _ => b.length_cellsUnder f)

/-- Every part can be read under every merged column. -/
def AllFit (parts : List Batch) : Prop :=
  ∀ b ∈ parts, ∀ f ∈ unifiedFields parts, b.Fits f

/-- A table has the merged columns of some parts, and as many rows as they have together. -/
structure Batch.MergedFrom (t : Batch) (parts : List Batch) : Prop where
  rows : t.rows = (parts.map Batch.rows).sum
  columns : t.columns = (unifiedFields parts).map (mergedColumn parts)

/-- A merged table has a column for the name of every column of a part. -/
theorem Batch.MergedFrom.column?_eq {t : Batch} (h : t.MergedFrom parts) (hf : f ∈ fieldsOf parts) :
    t.column? f.name = some (mergedColumn parts (mergedField (fieldsOf parts) f.name)) := by
  rw [Batch.column?, h.columns, List.find?_map]
  exact congrArg (Option.map (mergedColumn parts)) (find?_unifiedFields (mergedField_mem hf))

/-- Parts are stacked column by column. -/
theorem stack_map (fields : List Field) (parts : List Batch) :
    stack fields.length (parts.map fun b => fields.map b.cellsUnder) =
      fields.map fun f => parts.flatMap fun b => b.cellsUnder f := by
  induction parts with
  | nil => simp [stack, List.map_const']
  | cons b rest ih =>
    have hstep : stack fields.length ((b :: rest).map fun b => fields.map b.cellsUnder) =
        List.zipWith (· ++ ·) (fields.map b.cellsUnder)
          (stack fields.length (rest.map fun b => fields.map b.cellsUnder)) := rfl
    rw [hstep, ih, List.zipWith_map, List.zipWith_self]
    rfl

/-- Parts that fit are merged into the merged columns. -/
theorem exists_mergeParts (hne : unifiedFields parts ≠ []) (h : AllFit parts) :
    ∃ t, mergeParts parts = .ok t ∧ t.MergedFrom parts := by
  have hconform : parts.mapM (Batch.conform (unifiedFields parts)) =
      .ok (parts.map fun b => (unifiedFields parts).map b.cellsUnder) := by
    refine mapM_eq_map fun b hb => ?_
    rw [Batch.conform, if_neg (by simpa using hne)]
    exact mapM_eq_map fun f hf => Batch.conformTo_eq (h b hb f hf)
  have hcolumns : List.zipWith Column.holding (unifiedFields parts)
      (stack (unifiedFields parts).length
        (parts.map fun b => (unifiedFields parts).map b.cellsUnder)) =
      (unifiedFields parts).map (mergedColumn parts) := by
    rw [stack_map, List.zipWith_map_right, List.zipWith_self]
    rfl
  have hnullable : ∀ c ∈ (unifiedFields parts).map (mergedColumn parts), c.field.nullable = true := by
    intro c hc
    obtain ⟨f, hf, rfl⟩ := List.mem_map.1 hc
    exact congrArg Field.nullable (eq_mergedField hf)
  have hlength : ∀ c ∈ (unifiedFields parts).map (mergedColumn parts),
      c.cells.length = (parts.map Batch.rows).sum := by
    intro c hc
    obtain ⟨f, hf, rfl⟩ := List.mem_map.1 hc
    rw [cells_mergedColumn hf]
    exact length_flatMap_cellsUnder parts f
  obtain ⟨t, hbuilt, hrows, htcolumns⟩ :=
    Batch.exists_build_eq (by simpa using hne) hnullable hlength
  refine ⟨t, ?_, hrows, htcolumns⟩
  rw [mergeParts, hconform]
  simp only [bind, Except.bind, hcolumns, hbuilt]

/-- Only parts that fit are merged. -/
theorem allFit_of_mergeParts {t : Batch} (h : mergeParts parts = .ok t) : AllFit parts := by
  intro b hb f hf
  cases hconform : parts.mapM (Batch.conform (unifiedFields parts)) with
  | error e =>
    rw [mergeParts, hconform] at h
    cases h
  | ok conformed =>
    obtain ⟨cells, -, hcells⟩ := exists_of_mapM_ok hconform hb
    unfold Batch.conform at hcells
    split at hcells
    · cases hcells
    · obtain ⟨column, -, hcolumn⟩ := exists_of_mapM_ok hcells hf
      exact Batch.fits_of_conformTo hcolumn

/-- What is merged is a merged table. -/
theorem mergedFrom_of_mergeParts {t : Batch} (hne : unifiedFields parts ≠ [])
    (h : mergeParts parts = .ok t) : t.MergedFrom parts := by
  obtain ⟨merged, hmerged, hfrom⟩ := exists_mergeParts hne (allFit_of_mergeParts h)
  obtain rfl : merged = t := Except.ok.inj (hmerged.symm.trans h)
  exact hfrom

/-- The part has, first of its name, a column that cannot be written as texts. -/
def Batch.HasUnwritable (b : Batch) (name : String) : Prop :=
  ∃ c, b.column? name = some c ∧ ¬ c.Writable

/-- A part that does not fit has a column whose types differ and that cannot be written as texts. -/
theorem allFit_iff : AllFit parts ↔
    ¬ ∃ name, TypesDiffer (fieldsOf parts) name ∧ ∃ b ∈ parts, b.HasUnwritable name := by
  constructor
  · rintro hfits ⟨name, hdiffer, b, hb, c, hcolumn, hwritable⟩
    have htype := type_mergedField_of_differ hdiffer
    have hmem : mergedField (fieldsOf parts) name ∈ unifiedFields parts := by
      obtain ⟨f, hf, -, -, hname, -⟩ := hdiffer
      exact hname ▸ mergedField_mem hf
    refine hwritable (hfits b hb _ hmem c hcolumn fun heq => hwritable ?_)
    exact Column.writable_of_utf8 (heq.trans htype)
  · intro hnone b hb f hf c hcolumn htype
    exact Classical.byContradiction fun hwritable =>
      hnone ⟨f.name, typesDiffer_of_ne hb hf hcolumn htype, b, hb, c, hcolumn, hwritable⟩

/-- The values of a merged column are those of the parts under it, part after part. -/
theorem getElem?_mergedColumn {before after : List Batch} {b : Batch} {i : Nat}
    (hparts : parts = before ++ b :: after) (hf : f ∈ unifiedFields parts) (hi : i < b.rows) :
    (mergedColumn parts f).cells[(before.map Batch.rows).sum + i]? = (b.cellsUnder f)[i]? := by
  have hlt : i < (b.cellsUnder f).length := by rwa [b.length_cellsUnder]
  rw [cells_mergedColumn hf, hparts, List.flatMap_append, List.flatMap_cons,
    ← length_flatMap_cellsUnder before f,
    List.getElem?_append_right (Nat.le_add_right _ _), Nat.add_sub_cancel_left,
    List.getElem?_append_left hlt]

/-- The values of a merged column are what the parts hold under it. -/
theorem exists_holds_flatMap {before after : List Batch} {b : Batch} {i : Nat}
    (hparts : parts = before ++ b :: after) (hf : f ∈ unifiedFields parts) (hfits : b.Fits f)
    (hi : i < b.rows) :
    ∃ cell, (mergedColumn parts f).cells[(before.map Batch.rows).sum + i]? = some cell ∧
      b.Holds f i cell := by
  rw [getElem?_mergedColumn hparts hf hi]
  exact Batch.exists_holds_cellsUnder hfits hi

end Lakehouse
