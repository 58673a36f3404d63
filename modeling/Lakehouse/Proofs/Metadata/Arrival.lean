import Lakehouse.Proofs.Metadata.Table
import Mathlib.Data.List.Perm.Basic

/-!
# Batches in any order of arrival

Batches are gathered in the order in which tasks complete, which differs from run to run. The vote on
the type of a merged column goes through them in that order and overwrites what it has, so the table
could depend on which batch came first. It does not, but for the order of its columns and rows.

- `commonType_perm`: the outcome of a vote does not depend on the order of the votes.
- `unifiedFields_perm`: batches in another order have the same merged columns, in another order.
- `Batch.cell?_rowUnder_perm`: read under these, a row has the same value in each column.
- **`merges_in_any_order`**: batches in another order are merged if these are, and into a table that
  holds the same.
-/

namespace Lakehouse

variable {parts parts' : List Batch} {fields fields' : List Field}

/-! ## The columns -/

/-- A type that all votes agree on is the same in any order of the votes, and so is a disagreement. -/
theorem commonType_perm {ts ts' : List ColumnType} (h : ts.Perm ts') :
    commonType ts = commonType ts' := by
  by_cases hdiffer : ∃ s ∈ ts, ∃ t ∈ ts, s ≠ t
  · obtain ⟨s, hs, t, ht, hne⟩ := hdiffer
    rw [commonType_of_ne hs ht hne, commonType_of_ne (h.mem_iff.1 hs) (h.mem_iff.1 ht) hne]
  · cases ts with
    | nil => rw [h.nil_eq]
    | cons t rest =>
      have hsame : ∀ s ∈ t :: rest, s = t := by
        intro s hs
        refine Decidable.byContradiction fun hne => ?_
        exact hdiffer ⟨s, hs, t, List.mem_cons_self, hne⟩
      have hsame' : ∀ s ∈ ts', s = t := fun s hs => hsame s (h.mem_iff.2 hs)
      have hne : ts' ≠ [] := List.ne_nil_of_mem (h.mem_iff.1 List.mem_cons_self)
      rw [commonType_of_forall (List.cons_ne_nil t rest) hsame, commonType_of_forall hne hsame']

theorem mergedField_perm (h : fields.Perm fields') (name : String) :
    mergedField fields name = mergedField fields' name := by
  have htypes : (typesNamed fields name).Perm (typesNamed fields' name) := (h.filter _).map _
  rw [mergedField, mergedField, commonType_perm htypes]

theorem eraseDups_perm {names names' : List String} (h : names.Perm names') :
    names.eraseDups.Perm names'.eraseDups := by
  refine (List.perm_ext_iff_of_nodup (nodup_eraseDups names) (nodup_eraseDups names')).2 ?_
  intro name
  rw [List.mem_eraseDups, List.mem_eraseDups, h.mem_iff]

/-- Parts in another order have the same merged columns, in another order. -/
theorem unifiedFields_perm (h : parts.Perm parts') :
    (unifiedFields parts).Perm (unifiedFields parts') := by
  have hfields : (fieldsOf parts).Perm (fieldsOf parts') := h.flatMap_right _
  have hmerged : mergedField (fieldsOf parts) = mergedField (fieldsOf parts') :=
    funext fun name => mergedField_perm hfields name
  rw [unifiedFields_eq, unifiedFields_eq, hmerged]
  exact (eraseDups_perm (hfields.map _)).map _

/-- There is one merged column of a name, wherever it stands. -/
theorem find?_unifiedFields_perm (h : parts.Perm parts') (name : String) :
    (unifiedFields parts).find? (fun f => f.name == name) =
      (unifiedFields parts').find? fun f => f.name == name := by
  have hfields := unifiedFields_perm h
  cases hfind : (unifiedFields parts).find? fun f => f.name == name with
  | none =>
    refine (List.find?_eq_none.2 fun f hf => ?_).symm
    exact List.find?_eq_none.1 hfind f (hfields.mem_iff.2 hf)
  | some f =>
    have hname : f.name = name := by simpa using List.find?_some hfind
    have hmem := hfields.mem_iff.1 (List.mem_of_find?_eq_some hfind)
    rw [← hname, find?_unifiedFields hmem]

/-- Parts that fit the merged columns fit those of another order. -/
theorem AllFit.perm (hfits : AllFit parts) (h : parts.Perm parts') : AllFit parts' := by
  intro b hb f hf
  exact hfits b (h.mem_iff.2 hb) f ((unifiedFields_perm h).mem_iff.2 hf)

/-! ## The rows -/

namespace Batch

/-- A row has the same value in each merged column, in whatever order the columns are. -/
theorem cell?_rowUnder_perm (h : parts.Perm parts') (b : Batch) (i : Nat) :
    (b.rowUnder (unifiedFields parts) i).cell? = (b.rowUnder (unifiedFields parts') i).cell? := by
  funext name
  have hfind := find?_unifiedFields_perm h name
  -- the row has the entries of the columns, so what is found is the entry of the column found
  simp only [Row.cell?, rowUnder, List.find?_map, Function.comp_def, hfind]

theorem map_cell?_rowsUnder_perm (h : parts.Perm parts') (b : Batch) :
    (b.rowsUnder (unifiedFields parts)).map Row.cell? =
      (b.rowsUnder (unifiedFields parts')).map Row.cell? := by
  rw [rowsUnder, rowsUnder, List.map_map, List.map_map]
  exact List.map_congr_left fun i _ => cell?_rowUnder_perm h b i

/-- Two tables hold the same, in whatever order: the same columns, and as often as one of them the
other has a row with the same value in each column. -/
structure SameContents (t u : Batch) : Prop where
  columns : (t.columns.map (·.field)).Perm (u.columns.map (·.field))
  rows : (t.rowList.map Row.cell?).Perm (u.rowList.map Row.cell?)

/-- Merged tables hold the same if the parts do. -/
theorem sameContents_of_perm {t u : Batch} (h : parts.Perm parts') (ht : t.MergedFrom parts)
    (hu : u.MergedFrom parts') : t.SameContents u where
  columns := by
    rw [ht.map_field_columns, hu.map_field_columns]
    exact unifiedFields_perm h
  rows := by
    rw [ht.rowList_eq, hu.rowList_eq, List.map_flatMap, List.map_flatMap]
    refine List.Perm.flatMap h fun b _ => ?_
    rw [map_cell?_rowsUnder_perm h b]

end Batch

/-! ## The table -/

/-- What does not fit is not merged. -/
theorem Collection.exists_table_eq_error {c : Collection} (hne : c.batches ≠ [])
    (hnot : ¬ AllFit c.batches) : ∃ failure, c.table = .error failure := by
  rcases c.table_cases with ⟨hnil, -⟩ | ⟨-, ⟨t, hmerged, -⟩ | ⟨fault, -, htable⟩⟩
  · exact absurd hnil hne
  · exact absurd (allFit_of_mergeParts hmerged) hnot
  · exact ⟨fault.toFailure, htable⟩

/-- **Merging does not depend on the order of arrival.** Collections of the same batches in different
orders both come to no table, or both to tables that hold the same, or both to a failure. -/
theorem merges_in_any_order (c d : Collection) (hkeyed : c.Keyed)
    (h : c.batches.Perm d.batches) :
    (c.table = .ok none ∧ d.table = .ok none) ∨
      (∃ t u, c.table = .ok (some t) ∧ d.table = .ok (some u) ∧ t.SameContents u) ∨
      ∃ failure failure', c.table = .error failure ∧ d.table = .error failure' := by
  have hkeyed' : d.Keyed := fun b hb => hkeyed b (h.mem_iff.2 hb)
  by_cases hne : c.batches = []
  · have hne' : d.batches = [] := (hne ▸ h).nil_eq.symm
    refine .inl ⟨?_, ?_⟩
    · rw [Collection.table, hne]
      rfl
    · rw [Collection.table, hne']
      rfl
  · have hne' : d.batches ≠ [] := fun hnil => hne (hnil ▸ h).eq_nil
    by_cases hfits : AllFit c.batches
    · have hfits' := hfits.perm h
      obtain ⟨t, htable, ht⟩ := Collection.exists_table hkeyed hne hfits
      obtain ⟨u, hutable, hu⟩ := Collection.exists_table hkeyed' hne' hfits'
      exact .inr (.inl ⟨t, u, htable, hutable, Batch.sameContents_of_perm h ht hu⟩)
    · have hnot : ¬ AllFit d.batches := fun hfits' => hfits (hfits'.perm h.symm)
      obtain ⟨failure, hc⟩ := Collection.exists_table_eq_error hne hfits
      obtain ⟨failure', hd⟩ := Collection.exists_table_eq_error hne' hnot
      exact .inr (.inr ⟨failure, failure', hc, hd⟩)

/-- Three batches, of which two disagree on a type and one has a column twice, merge the same when the
last to arrive comes first. -/
theorem merges_in_any_order_mixed :
    mixedBatches.Keyed ∧ mixedBatches.batches.Perm mixedBatches.batches.reverse ∧
      ∃ t u, mixedBatches.table = .ok (some t) ∧
        (Collection.mk mixedBatches.batches.reverse []).table = .ok (some u) ∧
        t.SameContents u := by
  have hperm : mixedBatches.batches.Perm mixedBatches.batches.reverse :=
    (List.reverse_perm _).symm
  refine ⟨keyed_mixedBatches, hperm, ?_⟩
  obtain ⟨merged, hmerged⟩ : ∃ t, mixedBatches.table = .ok (some t) := ⟨_, rfl⟩
  have hmerges :=
    merges_in_any_order mixedBatches ⟨mixedBatches.batches.reverse, []⟩ keyed_mixedBatches hperm
  obtain ⟨hnone, -⟩ | htables | ⟨failure, -, hfailed, -⟩ := hmerges
  · rw [hnone] at hmerged
    cases hmerged
  · exact htables
  · rw [hfailed] at hmerged
    cases hmerged

end Lakehouse
