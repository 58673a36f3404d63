/-!
# Maps from names

A finite map from names, held as a list in ascending order of the names. The order of names is that
of their code points.

- `NameMap.get?`, `NameMap.insert`, `NameMap.ofList`: looking up, adding or replacing, building.
- `get?_insert_self` and `get?_insert_of_ne` say what is found after an insertion, `get?_ofList` what
  is found in a map that is built of entries with distinct names.
- `ext_get?`: maps are equal if the same is found in them. So entries may be added in another order,
  by `insert_insert_of_ne` and `ofList_append_cons`.
- `mem_names_insert` and `size_insert` say which names there are, and the field `ascending` that they
  are distinct and in order.
-/

namespace Lakehouse

universe u

/-- The value stored under a name. -/
def lookupName {α : Type u} (name : String) : List (String × α) → Option α
  | [] => none
  | (n, a) :: rest => if n = name then some a else lookupName name rest

/-- The entry put at its place, or in place of the one with the same name. -/
def insertName {α : Type u} (name : String) (a : α) : List (String × α) → List (String × α)
  | [] => [(name, a)]
  | (n, b) :: rest =>
    if name < n then (name, a) :: (n, b) :: rest
    else if name = n then (name, a) :: rest
    else (n, b) :: insertName name a rest

section Entries

variable {α : Type u}

theorem mem_insertName {name : String} {a : α} {entries : List (String × α)} {e : String × α}
    (h : e ∈ insertName name a entries) : e = (name, a) ∨ e ∈ entries := by
  induction entries with
  | nil => simpa [insertName] using h
  | cons f rest ih =>
    obtain ⟨n, b⟩ := f
    simp only [insertName] at h
    split at h
    · simpa using h
    · split at h
      · rcases List.mem_cons.1 h with h | h
        · exact Or.inl h
        · exact Or.inr (List.mem_cons_of_mem _ h)
      · rcases List.mem_cons.1 h with h | h
        · exact Or.inr (h ▸ List.mem_cons_self)
        · rcases ih h with h | h
          · exact Or.inl h
          · exact Or.inr (List.mem_cons_of_mem _ h)

theorem lt_of_not_lt_of_ne {s t : String} (h : ¬ s < t) (hne : s ≠ t) : t < s := by
  rcases String.le_total s t with hle | hle
  · exact absurd (String.le_antisymm hle h) hne
  · exact Decidable.byContradiction fun hn => hne (String.le_antisymm hn h)

theorem insertName_ascending {name : String} {a : α} {entries : List (String × α)}
    (h : entries.Pairwise fun x y => x.1 < y.1) :
    (insertName name a entries).Pairwise fun x y => x.1 < y.1 := by
  induction entries with
  | nil => simp [insertName]
  | cons f rest ih =>
    obtain ⟨n, b⟩ := f
    obtain ⟨hfirst, hrest⟩ := List.pairwise_cons.1 h
    simp only [insertName]
    split
    · next hlt =>
      refine List.pairwise_cons.2 ⟨?_, h⟩
      intro e he
      rcases List.mem_cons.1 he with rfl | he
      · exact hlt
      · exact String.lt_trans hlt (hfirst e he)
    · next hlt =>
      split
      · next heq => exact List.pairwise_cons.2 ⟨fun e he => heq ▸ hfirst e he, hrest⟩
      · next hne =>
        refine List.pairwise_cons.2 ⟨?_, ih hrest⟩
        intro e he
        rcases mem_insertName he with rfl | he
        · exact lt_of_not_lt_of_ne hlt hne
        · exact hfirst e he

theorem lookupName_insertName_self (name : String) (a : α) (entries : List (String × α)) :
    lookupName name (insertName name a entries) = some a := by
  induction entries with
  | nil => simp [insertName, lookupName]
  | cons f rest ih =>
    obtain ⟨n, b⟩ := f
    simp only [insertName]
    split
    · simp [lookupName]
    · split
      · simp [lookupName]
      · next hne => simpa [lookupName, Ne.symm hne] using ih

theorem lookupName_insertName_of_ne {name other : String} (a : α) (entries : List (String × α))
    (h : other ≠ name) :
    lookupName other (insertName name a entries) = lookupName other entries := by
  induction entries with
  | nil => simp [insertName, lookupName, Ne.symm h]
  | cons f rest ih =>
    obtain ⟨n, b⟩ := f
    simp only [insertName]
    split
    · simp [lookupName, Ne.symm h]
    · split
      · next heq => simp [lookupName, ← heq, Ne.symm h]
      · simp only [lookupName]
        split
        · rfl
        · exact ih

/-- A name is one of the entries exactly if something is stored under it. -/
theorem mem_names_iff_lookupName {name : String} {entries : List (String × α)} :
    name ∈ entries.map (·.1) ↔ (lookupName name entries).isSome = true := by
  induction entries with
  | nil => simp [lookupName]
  | cons f rest ih =>
    obtain ⟨n, b⟩ := f
    simp only [List.map_cons, List.mem_cons, lookupName, ih]
    by_cases hn : n = name
    · simp [hn]
    · simp [hn, Ne.symm hn]

/-- Where no two entries have one name, each is found under its own. -/
theorem lookupName_eq_some_iff {name : String} {a : α} {entries : List (String × α)}
    (h : (entries.map (·.1)).Nodup) : lookupName name entries = some a ↔ (name, a) ∈ entries := by
  induction entries with
  | nil => simp [lookupName]
  | cons f rest ih =>
    obtain ⟨n, b⟩ := f
    obtain ⟨hnew, hrest⟩ := List.nodup_cons.1 h
    rw [lookupName, List.mem_cons, Prod.mk.injEq]
    split
    · next heq =>
      subst heq
      have hnone : (n, a) ∉ rest := fun hmem => hnew (List.mem_map.2 ⟨_, hmem, rfl⟩)
      simp [hnone, eq_comm]
    · next hne => simp [ih hrest, Ne.symm hne]

theorem lookupName_eq_none_iff {name : String} {entries : List (String × α)} :
    lookupName name entries = none ↔ name ∉ entries.map (·.1) := by
  rw [mem_names_iff_lookupName]
  cases lookupName name entries <;> simp

/-- Under each name is what its value comes to, where those entries are left out whose value comes to
nothing. -/
theorem lookupName_filterMap {β : Type u} (f : α → Option β) {name : String}
    {entries : List (String × α)} (h : (entries.map (·.1)).Nodup) :
    lookupName name (entries.filterMap fun e => (f e.2).map fun b => (e.1, b)) =
      (lookupName name entries).bind f := by
  induction entries with
  | nil => rfl
  | cons e rest ih =>
    obtain ⟨n, a⟩ := e
    obtain ⟨hnew, hrest⟩ := List.nodup_cons.1 h
    rw [List.filterMap_cons, lookupName]
    by_cases hn : n = name
    · subst hn
      rw [if_pos rfl, Option.bind_some]
      cases hf : f a with
      | none =>
        have hnone : lookupName n rest = none := lookupName_eq_none_iff.2 hnew
        simpa [hf, hnone] using ih hrest
      | some b => simp [lookupName]
    · rw [if_neg hn, ← ih hrest]
      cases f a <;> simp [lookupName, hn]

theorem nodup_names_filterMap {β : Type u} (f : α → Option β) {entries : List (String × α)}
    (h : (entries.map (·.1)).Nodup) :
    ((entries.filterMap fun e => (f e.2).map fun b => (e.1, b)).map (·.1)).Nodup := by
  refine List.Sublist.nodup ?_ h
  induction entries with
  | nil => exact .slnil
  | cons e rest ih =>
    have hrest := ih (List.nodup_cons.1 h).2
    rw [List.filterMap_cons]
    cases hf : f e.2 with
    | none => simpa [hf] using hrest.cons e.1
    | some b => simpa [hf] using hrest

/-- An entry under a new name is one more. -/
theorem length_insertName {name : String} (a : α) {entries : List (String × α)}
    (h : lookupName name entries = none) :
    (insertName name a entries).length = entries.length + 1 := by
  induction entries with
  | nil => rfl
  | cons f rest ih =>
    obtain ⟨n, b⟩ := f
    have hne : n ≠ name := by
      rintro rfl
      simp [lookupName] at h
    simp only [lookupName, hne, if_false] at h
    simp only [insertName, Ne.symm hne, if_false]
    split
    · rfl
    · rw [List.length_cons, ih h, List.length_cons]

end Entries

/-- A finite map from names. -/
structure NameMap (α : Type u) where
  entries : List (String × α)
  ascending : entries.Pairwise fun x y => x.1 < y.1

namespace NameMap

variable {α : Type u}

/-- No names. -/
def empty : NameMap α := ⟨[], List.Pairwise.nil⟩

/-- The value stored under a name. -/
def get? (m : NameMap α) (name : String) : Option α :=
  lookupName name m.entries

/-- The name is stored. -/
def contains (m : NameMap α) (name : String) : Bool :=
  (m.get? name).isSome

/-- A name added, or its value replaced. -/
def insert (m : NameMap α) (name : String) (a : α) : NameMap α :=
  ⟨insertName name a m.entries, insertName_ascending m.ascending⟩

/-- The names in ascending order. -/
def names (m : NameMap α) : List String :=
  m.entries.map (·.1)

/-- How many names are stored. -/
def size (m : NameMap α) : Nat :=
  m.entries.length

/-- Of entries with one name the last one counts. -/
def ofList (entries : List (String × α)) : NameMap α :=
  entries.foldl (fun m e => m.insert e.1 e.2) empty

@[simp] theorem get?_empty (name : String) : (empty : NameMap α).get? name = none := rfl

@[simp] theorem get?_insert_self (m : NameMap α) (name : String) (a : α) :
    (m.insert name a).get? name = some a :=
  lookupName_insertName_self name a m.entries

theorem get?_insert_of_ne (m : NameMap α) {name other : String} (a : α) (h : other ≠ name) :
    (m.insert name a).get? other = m.get? other :=
  lookupName_insertName_of_ne a m.entries h

theorem contains_iff {m : NameMap α} {name : String} :
    m.contains name = true ↔ name ∈ m.names :=
  mem_names_iff_lookupName.symm

theorem get?_eq_none_iff {m : NameMap α} {name : String} :
    m.get? name = none ↔ name ∉ m.names := by
  rw [← contains_iff, contains, Option.not_isSome_iff_eq_none]

/-- The names are distinct and in ascending order. -/
theorem names_ascending (m : NameMap α) : m.names.Pairwise (· < ·) :=
  List.pairwise_map.2 m.ascending

@[simp] theorem length_names (m : NameMap α) : m.names.length = m.size :=
  List.length_map _

theorem nodup_names (m : NameMap α) : m.names.Nodup :=
  m.names_ascending.imp fun h heq => by
    rw [heq] at h
    exact String.lt_irrefl _ h

theorem mem_names_insert {m : NameMap α} {name other : String} {a : α} :
    other ∈ (m.insert name a).names ↔ other = name ∨ other ∈ m.names := by
  simp only [← contains_iff, contains]
  by_cases h : other = name
  · simp [h]
  · simp [h, get?_insert_of_ne]

theorem size_insert {m : NameMap α} {name : String} (a : α) (h : name ∉ m.names) :
    (m.insert name a).size = m.size + 1 :=
  length_insertName a (get?_eq_none_iff.2 h)

/-- Entries with distinct names are found in the map that is built of them. -/
theorem get?_ofList {entries : List (String × α)} (h : (entries.map (·.1)).Nodup) (name : String) :
    (ofList entries).get? name = lookupName name entries := by
  -- what is found in a map that the entries are added to, whatever it has under other names
  have hadded (m : NameMap α) : (entries.foldl (fun m e => m.insert e.1 e.2) m).get? name =
      (lookupName name entries).or (m.get? name) := by
    induction entries generalizing m with
    | nil => rfl
    | cons e rest ih =>
      obtain ⟨n, a⟩ := e
      obtain ⟨hnew, hrest⟩ := List.nodup_cons.1 h
      rw [List.foldl_cons, ih hrest, lookupName]
      split
      · next heq =>
        subst heq
        rw [lookupName_eq_none_iff.2 hnew, get?_insert_self, Option.none_or, Option.some_or]
      · next hne => rw [get?_insert_of_ne m a (Ne.symm hne)]
  rw [ofList, hadded, get?_empty, Option.or_none]

/-- Maps are equal if the same is found in them. -/
theorem ext_get? {m m' : NameMap α} (h : ∀ name, m.get? name = m'.get? name) : m = m' := by
  have hentries (m : NameMap α) (e : String × α) : e ∈ m.entries ↔ m.get? e.1 = some e.2 :=
    (lookupName_eq_some_iff m.nodup_names).symm
  have hnodup (m : NameMap α) : m.entries.Nodup :=
    m.ascending.imp fun {e e'} (hlt : e.1 < e'.1) heq => by
      rw [heq] at hlt
      exact String.lt_irrefl _ hlt
  have hperm : m.entries.Perm m'.entries := by
    refine (List.perm_ext_iff_of_nodup (hnodup m) (hnodup m')).2 fun e => ?_
    rw [hentries, hentries, h]
  have heq : m.entries = m'.entries := by
    refine hperm.eq_of_pairwise (fun a b _ _ hab hba => ?_) m.ascending m'.ascending
    exact absurd (String.lt_trans hab hba) (String.lt_irrefl _)
  cases m
  cases m'
  congr

/-- Entries under two names can be added in either order. -/
theorem insert_insert_of_ne (m : NameMap α) {name other : String} (a b : α) (h : name ≠ other) :
    (m.insert name a).insert other b = (m.insert other b).insert name a := by
  refine ext_get? fun asked => ?_
  by_cases hname : asked = name
  · subst hname
    rw [get?_insert_of_ne _ _ h, get?_insert_self, get?_insert_self]
  · by_cases hother : asked = other
    · subst hother
      rw [get?_insert_self, get?_insert_of_ne _ _ hname, get?_insert_self]
    · rw [get?_insert_of_ne _ _ hother, get?_insert_of_ne _ _ hname, get?_insert_of_ne _ _ hname,
        get?_insert_of_ne _ _ hother]

/-- An entry whose name none of the later ones has may as well be added last. -/
theorem ofList_append_cons {name : String} (a : α) (before : List (String × α))
    {after : List (String × α)} (h : name ∉ after.map (·.1)) :
    ofList (before ++ (name, a) :: after) = (ofList (before ++ after)).insert name a := by
  rw [ofList, ofList, List.foldl_append, List.foldl_append, List.foldl_cons]
  generalize before.foldl (fun m e => m.insert e.1 e.2) (.empty : NameMap α) = m
  induction after generalizing m with
  | nil => rfl
  | cons e rest ih =>
    rw [List.map_cons, List.mem_cons, not_or] at h
    obtain ⟨hne, hrest⟩ := h
    rw [List.foldl_cons, List.foldl_cons, insert_insert_of_ne m a e.2 hne]
    exact ih hrest _

/-- A map is built of its own entries. -/
theorem ofList_entries (m : NameMap α) : ofList m.entries = m :=
  ext_get? fun name => get?_ofList m.nodup_names name

end NameMap

end Lakehouse
