import Lakehouse.Proofs.Declaration.Misspelled

/-!
# Documents with one more property

The properties of an integration may have any key that is a text. A document in which one integration has
one more property is read as the same declarations, in which that integration has the property.

- `YamlValue.EntryReplaced`, `YamlValue.ItemReplaced`, `YamlValue.EntryAdded`: values that differ at one
  place.
- `RecordKind.Readable.entryReplaced`: a record with another value under one key.
- `YamlValue.EntryAdded.asProperties`: properties with one more.
- **`Declarations.ofDocument_propertyAdded`**: a document in which one integration has one more.
-/

namespace Lakehouse

/-! ## Values that differ at one place -/

namespace YamlValue

variable {v w x p : YamlValue} {s key : String} {R : YamlValue → YamlValue → Prop}

/-- Two maps that differ in the value under a key. -/
inductive EntryReplaced (s : String) (R : YamlValue → YamlValue → Prop) (v w : YamlValue) : Prop
  | intro {key x x' : YamlValue} (before after : List (YamlValue × YamlValue))
      (hkey : key.keyText? = some s) (hv : v.untagged = .map (before ++ (key, x) :: after))
      (hw : w.untagged = .map (before ++ (key, x') :: after)) (h : R x x')

/-- Two lists that differ in the item at a place. -/
inductive ItemReplaced (i : Nat) (R : YamlValue → YamlValue → Prop) (v w : YamlValue) : Prop
  | intro {items : List YamlValue} {x x' : YamlValue} (hv : v.untagged = .list items)
      (hi : items[i]? = some x) (hw : w.untagged = .list (items.set i x')) (h : R x x')

/-- A map with one more entry, under a key that no other entry has. -/
inductive EntryAdded (s : String) (x v w : YamlValue) : Prop
  | intro {key : YamlValue} (before after : List (YamlValue × YamlValue))
      (hkey : key.keyText? = some s) (hv : v.asEntries .map = .ok (before ++ after))
      (hw : w.untagged = .map (before ++ (key, x) :: after))
      (hnew : ∀ e ∈ before ++ after, e.1.keyText? ≠ some s)

theorem ItemReplaced.asList {α : Type} {item : YamlValue → Fit α} {i : Nat} {as : List α} {g : α → α}
    (h : ItemReplaced i R v w) (hitem : ∀ x x' a, R x x' → item x = .ok a → item x' = .ok (g a))
    (hv : v.asList item = .ok as) : w.asList item = .ok (as.modify i g) := by
  obtain ⟨hitems, hi, hitems', hreplaced⟩ := h
  rw [YamlValue.asList, asItems_of_list hitems] at hv
  rw [YamlValue.asList, asItems_of_list hitems']
  have hread := mapM_eq_ok_iff.1 hv
  refine mapM_eq_ok_iff.2 ?_
  clear hv hitems hitems'
  induction hread generalizing i with
  | nil => cases hi
  | cons hfirst hrest ih =>
    cases i with
    | zero =>
      obtain rfl := Option.some.inj hi
      exact .cons (hitem _ _ _ hreplaced hfirst) hrest
    | succ i => exact .cons hfirst (ih hi)

/-- An entry of a map of properties. -/
def propertyEntry (e : YamlValue × YamlValue) : Fit (String × YamlValue) := do
  let key ← e.1.asText .text
  return (key, ← e.2.asProperty)

theorem propertyEntry_eq_ok_iff {e : YamlValue × YamlValue} {a : String × YamlValue} :
    propertyEntry e = .ok a ↔ e.1.keyText? = some a.1 ∧ e.2.asProperty = .ok a.2 := by
  constructor
  · intro h
    obtain ⟨s, hs, h⟩ := exists_of_bind_ok h
    obtain ⟨p, hp, h⟩ := exists_of_bind_ok h
    obtain rfl := Except.ok.inj h
    exact ⟨asText_eq_ok_iff.1 hs, hp⟩
  · rintro ⟨hs, hp⟩
    rw [propertyEntry, asText_eq_ok_iff.2 hs, hp]
    rfl

theorem asProperties_eq_ok_iff {m : NameMap YamlValue} : v.asProperties = .ok m ↔
    ∃ entries named, v.asEntries .map = .ok entries ∧ entries.mapM propertyEntry = .ok named ∧
      .ofList named = m := by
  constructor
  · intro h
    obtain ⟨entries, hentries, h⟩ := exists_of_bind_ok h
    obtain ⟨named, hnamed, h⟩ := exists_of_bind_ok h
    exact ⟨entries, named, hentries, hnamed, Except.ok.inj h⟩
  · rintro ⟨entries, named, hentries, hnamed, rfl⟩
    rw [asProperties, hentries]
    show entries.mapM propertyEntry >>= _ = _
    rw [hnamed]
    rfl

/-- One more property is one more in what is read. -/
theorem EntryAdded.asProperties {m : NameMap YamlValue} (h : EntryAdded key x v w)
    (hx : x.asProperty = .ok p) (hv : v.asProperties = .ok m) :
    w.asProperties = .ok (m.insert key p) := by
  obtain @⟨k, before, after, hkey, hentries, hentries', hnew⟩ := h
  obtain ⟨_, named, hread, hnamed, rfl⟩ := asProperties_eq_ok_iff.1 hv
  obtain rfl := Except.ok.inj (hentries.symm.trans hread)
  rw [List.mapM_append] at hnamed
  obtain ⟨first, hfirst, hnamed⟩ := exists_of_bind_ok hnamed
  obtain ⟨last, hlast, hnamed⟩ := exists_of_bind_ok hnamed
  obtain rfl := Except.ok.inj hnamed
  -- of two properties with one key the later counts, so the new one must not be overwritten
  have hlater : key ∉ last.map (·.1) := by
    intro hmem
    have hnames : last.map (fun a => some a.1) = after.map fun e => e.1.keyText? :=
      map_eq_map_of_mapM_ok (fun e a he => (propertyEntry_eq_ok_iff.1 he).1.symm) hlast
    obtain ⟨a, ha, rfl⟩ := List.mem_map.1 hmem
    have hmem : some a.1 ∈ after.map fun e => e.1.keyText? := hnames ▸ List.mem_map_of_mem ha
    obtain ⟨e, he, hsame⟩ := List.mem_map.1 hmem
    exact hnew e (List.mem_append_right _ he) hsame
  refine asProperties_eq_ok_iff.2 ⟨_, first ++ (key, p) :: last, asEntries_of_map hentries', ?_,
    NameMap.ofList_append_cons p first hlater⟩
  have hadded : propertyEntry (k, x) = .ok (key, p) := propertyEntry_eq_ok_iff.2 ⟨hkey, hx⟩
  rw [List.mapM_append, hfirst, mapM_cons_ok hadded hlast]
  rfl

end YamlValue

/-! ## Records with another value under one key -/

namespace RecordKind

variable {F : Type} {Value : F → Type} {value : (f : F) → YamlValue → Fit (Value f)}
  {kind : RecordKind F} {key v v' : YamlValue} {f : F} {x : Value f}
  {entries before after : List (YamlValue × YamlValue)}

theorem Readable.replaced (h : kind.Readable value (before ++ (key, v) :: after))
    (hf : kind.meaning key = some f) (hx : value f v' = .ok x) :
    kind.Readable value (before ++ (key, v') :: after) := by
  obtain ⟨heach, hdistinct⟩ := h
  refine ⟨fun e he => ?_, by simpa using hdistinct⟩
  rcases List.mem_append.1 he with he | he
  · exact heach e (List.mem_append_left _ he)
  · rcases List.mem_cons.1 he with rfl | he
    · exact ⟨f, x, hf, hx⟩
    · exact heach e (List.mem_append_right _ (List.mem_cons_of_mem _ he))

variable [DecidableEq F]

/-- Another value under one key is another value under its field, and nothing else. -/
theorem Readable.entryReplaced {w : YamlValue} {s : String} {R : YamlValue → YamlValue → Prop}
    {g : Value f → Value f} (h : kind.Readable value entries)
    (hentries : v.asEntries (.record kind.title) = .ok entries) (hw : v.EntryReplaced s R w)
    (hkind : (kind.keys.map (·.1)).Nodup) (hs : (s, f) ∈ kind.keys)
    (hR : ∀ x x' a, R x x' → value f x = .ok a → value f x' = .ok (g a)) :
    ∃ entries', w.asEntries (.record kind.title) = .ok entries' ∧ kind.Readable value entries' ∧
      (∃ a, kind.fieldOf value entries f = some a ∧ kind.fieldOf value entries' f = some (g a)) ∧
      ∀ f', f' ≠ f → kind.fieldOf value entries' f' = kind.fieldOf value entries f' := by
  obtain @⟨key, x, x', before, after, hkey, hv, hw, hreplaced⟩ := hw
  obtain rfl := Except.ok.inj ((YamlValue.asEntries_of_map hv).symm.trans hentries)
  have hmeans : kind.meaning key = some f := (meaning_eq_some_iff hkind).2 ⟨s, hkey, hs⟩
  obtain ⟨a, ha, hfield⟩ := h.exists_fieldOf (List.mem_append_right _ List.mem_cons_self) hmeans
  have ha' := hR x x' a hreplaced ha
  have hreadable := h.replaced hmeans ha'
  refine ⟨_, YamlValue.asEntries_of_map hw, hreadable, ⟨a, hfield, ?_⟩, fun f' hf' => ?_⟩
  · exact fieldOf_of_mem hreadable.distinct (List.mem_append_right _ List.mem_cons_self) hmeans ha'
  · have hne : ¬ kind.meaning key = some f' := fun h => hf' (Option.some.inj (h.symm.trans hmeans))
    simp only [fieldOf, entryFor, List.find?_append, List.find?_cons, hne, decide_false]

end RecordKind

/-! ## Documents -/

namespace IntegrationDeclaration

variable {v w x p : YamlValue} {key : String} {d : IntegrationDeclaration}

/-- The integration with one more property. -/
def withProperty (key : String) (p : YamlValue) (d : IntegrationDeclaration) : IntegrationDeclaration :=
  { d with properties := d.properties.insert key p }

/-- The document of an integration, with one more property. -/
def PropertyAdded (key : String) (x v w : YamlValue) : Prop :=
  v.EntryReplaced "adapter_properties" (YamlValue.EntryAdded key x) w

theorem ofDocument_propertyAdded (h : PropertyAdded key x v w) (hx : x.asProperty = .ok p)
    (hv : ofDocument v = .ok d) : ofDocument w = .ok (d.withProperty key p) := by
  obtain ⟨entries, hentries, hd⟩ := ofDocument_eq_ok_iff.1 hv
  have hread : ∀ y y' m, YamlValue.EntryAdded key x y y' → y.asProperties = .ok m →
      y'.asProperties = .ok (m.insert key p) := fun _ _ _ hadded => hadded.asProperties hx
  obtain ⟨entries', hentries', hreadable, ⟨m, hm, hm'⟩, hothers⟩ :=
    hd.readable.entryReplaced (f := Field.properties) hentries h vocabulary_describes.distinct
      (by decide) hread
  obtain rfl : m = d.properties := by
    have hproperties := hd.properties
    rwa [under, hm] at hproperties
  refine ofDocument_eq_ok_iff.2 ⟨entries', hentries', ?_⟩
  exact {
    readable := hreadable
    name := (hothers .name nofun).trans hd.name
    catalogType := (hothers .catalogType nofun).trans hd.catalogType
    tableFormat := (congrArg Option.join (hothers .tableFormat nofun)).trans hd.tableFormat
    fileFormat := (congrArg Option.join (hothers .fileFormat nofun)).trans hd.fileFormat
    externalVolume := (congrArg Option.join (hothers .externalVolume nofun)).trans hd.externalVolume
    properties := congrArg (Option.getD · NameMap.empty) hm'
  }

end IntegrationDeclaration

namespace CatalogDeclaration

variable {v w x p : YamlValue} {key : String} {c : CatalogDeclaration}

/-- The two lists of integrations. -/
inductive Side where
  | writes
  | reads
  deriving DecidableEq, Repr

/-- The key of a list of integrations. -/
def Side.listKey : Side → String
  | writes => "write_integrations"
  | reads => "read_integrations"

/-- The catalog with another integration at a place. -/
def modify (side : Side) (j : Nat) (g : IntegrationDeclaration → IntegrationDeclaration)
    (c : CatalogDeclaration) : CatalogDeclaration :=
  match side with
  | .writes => { c with writes := c.writes.modify j g }
  | .reads => { c with reads := c.reads.modify j g }

/-- The document of a catalog, with one more property of one integration. -/
def PropertyAdded (side : Side) (j : Nat) (key : String) (x v w : YamlValue) : Prop :=
  v.EntryReplaced side.listKey (YamlValue.ItemReplaced j (IntegrationDeclaration.PropertyAdded key x)) w

theorem ofDocument_propertyAdded {side : Side} {j : Nat} (h : PropertyAdded side j key x v w)
    (hx : x.asProperty = .ok p) (hv : ofDocument v = .ok c) :
    ofDocument w = .ok (c.modify side j (IntegrationDeclaration.withProperty key p)) := by
  obtain ⟨entries, hentries, hc⟩ := ofDocument_eq_ok_iff.1 hv
  have hlist : ∀ y y' as, YamlValue.ItemReplaced j (IntegrationDeclaration.PropertyAdded key x) y y' →
      y.asList IntegrationDeclaration.ofDocument = .ok as →
      y'.asList IntegrationDeclaration.ofDocument =
        .ok (as.modify j (IntegrationDeclaration.withProperty key p)) := fun y y' as h hread =>
    h.asList (fun _ _ _ h hread => IntegrationDeclaration.ofDocument_propertyAdded h hx hread) hread
  cases side with
  | writes =>
    obtain ⟨entries', hentries', hreadable, ⟨as, has, has'⟩, hothers⟩ :=
      hc.readable.entryReplaced (f := Field.writes) hentries h vocabulary_describes.distinct
        (by decide) hlist
    obtain rfl : as = c.writes := Option.some.inj (has.symm.trans hc.writes)
    exact ofDocument_eq_ok_iff.2 ⟨entries', hentries', {
      readable := hreadable
      name := (hothers .name nofun).trans hc.name
      active := (hothers .active nofun).trans hc.active
      writes := has'
      reads := (congrArg (Option.getD · []) (hothers .reads nofun)).trans hc.reads
    }⟩
  | reads =>
    obtain ⟨entries', hentries', hreadable, ⟨as, has, has'⟩, hothers⟩ :=
      hc.readable.entryReplaced (f := Field.reads) hentries h vocabulary_describes.distinct
        (by decide) hlist
    obtain rfl : as = c.reads := by
      have hreads := hc.reads
      rwa [under, has] at hreads
    exact ofDocument_eq_ok_iff.2 ⟨entries', hentries', {
      readable := hreadable
      name := (hothers .name nofun).trans hc.name
      active := (hothers .active nofun).trans hc.active
      writes := (hothers .writes nofun).trans hc.writes
      reads := congrArg (Option.getD · []) has'
    }⟩

end CatalogDeclaration

namespace Declarations

variable {v w x p : YamlValue} {key : String} {d : Declarations}

/-- The declarations with another catalog at a place. -/
def modify (i : Nat) (g : CatalogDeclaration → CatalogDeclaration) (d : Declarations) : Declarations :=
  ⟨d.catalogs.modify i g⟩

/-- The document, with one more property of one integration of one catalog. -/
def PropertyAdded (i : Nat) (side : CatalogDeclaration.Side) (j : Nat) (key : String)
    (x v w : YamlValue) : Prop :=
  v.EntryReplaced "catalogs"
    (YamlValue.ItemReplaced i (CatalogDeclaration.PropertyAdded side j key x)) w

/-- **A document in which one integration has one more property** is read as the same declarations, in
which that integration has the property. -/
theorem ofDocument_propertyAdded {i : Nat} {side : CatalogDeclaration.Side} {j : Nat}
    (h : PropertyAdded i side j key x v w) (hx : x.asProperty = .ok p) (hv : ofDocument v = .ok d) :
    ofDocument w = .ok
      (d.modify i (CatalogDeclaration.modify side j (IntegrationDeclaration.withProperty key p))) := by
  obtain ⟨entries, hentries, hd⟩ := ofDocument_eq_ok_iff.1 hv
  obtain ⟨entries', hentries', hreadable, ⟨cs, hcs, hcs'⟩, -⟩ :=
    hd.readable.entryReplaced (f := ()) hentries h vocabulary_describes.distinct (by decide)
      fun _ _ _ h hread => h.asList (fun _ _ _ h hread =>
        CatalogDeclaration.ofDocument_propertyAdded h hx hread) hread
  obtain rfl : cs = d.catalogs := Option.some.inj (hcs.symm.trans hd.catalogs)
  exact ofDocument_eq_ok_iff.2 ⟨entries', hentries', hreadable, hcs'⟩

end Declarations

end Lakehouse
