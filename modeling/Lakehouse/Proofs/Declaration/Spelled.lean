import Lakehouse.Proofs.Declaration.Record

/-!
# What spells out declarations

For each of the three records of a document, the fields that it has, and what it spells out in terms of
what is under them.

- `IntegrationDeclaration.readField`, `CatalogDeclaration.readField`, `Declarations.readField`: how the
  values of fields are read.
- `IntegrationDeclaration.SpelledBy`, `CatalogDeclaration.SpelledBy`, `Declarations.SpelledBy`: the
  entries that spell something out.
- **`ofDocument_eq_ok_iff`**, for each of them: a document is read as what its entries spell out.
-/

namespace Lakehouse

/-- An option that is filled with what is read, if it was empty. -/
theorem map_once_eq_ok_iff {α δ : Type} {key : String} {present : Option α} {read : Fit α}
    {g : Option α → δ} {d : δ} : (once key present read).map g = .ok d ↔
      present = none ∧ ∃ a, read = .ok a ∧ g (some a) = d := by
  constructor
  · intro h
    obtain ⟨o, ho, rfl⟩ := exists_of_map_ok h
    obtain ⟨hnone, a, ha, rfl⟩ := once_eq_ok_iff.1 ho
    exact ⟨hnone, a, ha, rfl⟩
  · rintro ⟨rfl, a, rfl, rfl⟩
    rfl

/-! ## Integrations -/

namespace IntegrationDeclaration

/-- What a field of an integration holds. -/
abbrev Field.Value : Field → Type
  | name => String
  | catalogType => String
  | tableFormat => Option String
  | fileFormat => Option String
  | externalVolume => Option String
  | properties => NameMap YamlValue

/-- What has been read under a field. -/
def Draft.get (d : Draft) : (f : Field) → Option f.Value
  | .name => d.name
  | .catalogType => d.catalogType
  | .tableFormat => d.tableFormat
  | .fileFormat => d.fileFormat
  | .externalVolume => d.externalVolume
  | .properties => d.properties

/-- How the value of a field is read. -/
def readField : (f : Field) → YamlValue → Fit f.Value
  | .name, v => v.asText .text
  | .catalogType, v => v.asText .text
  | .tableFormat, v => v.asOptionalText
  | .fileFormat, v => v.asOptionalText
  | .externalVolume, v => v.asOptionalText
  | .properties, v => v.asProperties

theorem Draft.of_put {d d' : Draft} {f : Field} {v : YamlValue} (h : d.put f v = .ok d') :
    d.get f = none ∧ ∃ x, readField f v = .ok x ∧ d'.get f = some x ∧
      ∀ g, g ≠ f → d'.get g = d.get g := by
  cases f <;>
  · obtain ⟨hnone, x, hx, rfl⟩ := map_once_eq_ok_iff.1 h
    refine ⟨hnone, x, hx, rfl, fun g hg => ?_⟩
    cases g <;> first | rfl | exact absurd rfl hg

theorem Draft.exists_put {d : Draft} {f : Field} {v : YamlValue} {x : f.Value}
    (hnone : d.get f = none) (hx : readField f v = .ok x) : ∃ d', d.put f v = .ok d' := by
  cases f <;> exact ⟨_, map_once_eq_ok_iff.2 ⟨hnone, x, hx, rfl⟩⟩

theorem drafts : Drafts Draft.put Draft.get readField where
  exists_put := Draft.exists_put
  empty h := (Draft.of_put h).1
  filled h := (Draft.of_put h).2.imp fun _ hx => ⟨hx.1, hx.2.1⟩
  others h := (Draft.of_put h).2.elim fun _ hx => hx.2.2

theorem get_blank (f : Field) : ({} : Draft).get f = none := by
  cases f <;> rfl

/-- What the entries of an integration have under a field. -/
def under (entries : List (YamlValue × YamlValue)) (f : Field) : Option f.Value :=
  kind.fieldOf readField entries f

/-- The entries spell out an integration. -/
structure SpelledBy (d : IntegrationDeclaration) (entries : List (YamlValue × YamlValue)) : Prop where
  readable : kind.Readable readField entries
  name : under entries .name = some d.name
  catalogType : under entries .catalogType = some d.catalogType
  tableFormat : (under entries .tableFormat).join = d.tableFormat
  fileFormat : (under entries .fileFormat).join = d.fileFormat
  externalVolume : (under entries .externalVolume).join = d.externalVolume
  properties : (under entries .properties).getD .empty = d.properties

theorem Draft.finish_eq_ok_iff {draft : Draft} {d : IntegrationDeclaration} : draft.finish = .ok d ↔
    draft.name = some d.name ∧ draft.catalogType = some d.catalogType ∧
      draft.tableFormat.join = d.tableFormat ∧ draft.fileFormat.join = d.fileFormat ∧
      draft.externalVolume.join = d.externalVolume ∧
      draft.properties.getD .empty = d.properties := by
  constructor
  · intro h
    obtain ⟨name, hname, h⟩ := exists_of_bind_ok h
    obtain ⟨catalogType, htype, h⟩ := exists_of_bind_ok h
    obtain rfl := Except.ok.inj h
    exact ⟨required_eq_ok_iff.1 hname, required_eq_ok_iff.1 htype, rfl, rfl, rfl, rfl⟩
  · rintro ⟨hname, htype, htable, hfile, hvolume, hproperties⟩
    obtain ⟨name, catalogType, tableFormat, fileFormat, externalVolume, properties⟩ := draft
    obtain rfl : name = _ := hname
    obtain rfl : catalogType = _ := htype
    cases d
    simp only at htable hfile hvolume hproperties
    subst htable hfile hvolume hproperties
    rfl

/-- A document is read as an integration that its entries spell out. -/
theorem ofDocument_eq_ok_iff {v : YamlValue} {d : IntegrationDeclaration} :
    ofDocument v = .ok d ↔
      ∃ entries, v.asEntries (.record kind.title) = .ok entries ∧ d.SpelledBy entries := by
  constructor
  · intro h
    obtain ⟨draft, hread, hfinish⟩ := exists_of_bind_ok h
    obtain ⟨entries, hentries, hreadable, hget⟩ := RecordKind.read_eq_ok drafts get_blank hread
    obtain ⟨hname, htype, htable, hfile, hvolume, hproperties⟩ := Draft.finish_eq_ok_iff.1 hfinish
    refine ⟨entries, hentries, hreadable, (hget .name).symm.trans hname,
      (hget .catalogType).symm.trans htype, ?_, ?_, ?_, ?_⟩
    · exact (congrArg Option.join (hget .tableFormat)).symm.trans htable
    · exact (congrArg Option.join (hget .fileFormat)).symm.trans hfile
    · exact (congrArg Option.join (hget .externalVolume)).symm.trans hvolume
    · exact (congrArg (Option.getD · NameMap.empty) (hget .properties)).symm.trans hproperties
  · rintro ⟨entries, hentries, h⟩
    obtain ⟨draft, hread, hget⟩ := RecordKind.exists_read drafts get_blank hentries h.readable
    rw [ofDocument, hread]
    refine Draft.finish_eq_ok_iff.2 ⟨(hget .name).trans h.name, (hget .catalogType).trans h.catalogType,
      ?_, ?_, ?_, ?_⟩
    · exact (congrArg Option.join (hget .tableFormat)).trans h.tableFormat
    · exact (congrArg Option.join (hget .fileFormat)).trans h.fileFormat
    · exact (congrArg Option.join (hget .externalVolume)).trans h.externalVolume
    · exact (congrArg (Option.getD · NameMap.empty) (hget .properties)).trans h.properties

end IntegrationDeclaration

/-! ## Catalogs -/

namespace CatalogDeclaration

/-- What a field of a catalog holds. -/
abbrev Field.Value : Field → Type
  | name => String
  | active => String
  | writes => List IntegrationDeclaration
  | reads => List IntegrationDeclaration

/-- What has been read under a field. -/
def Draft.get (d : Draft) : (f : Field) → Option f.Value
  | .name => d.name
  | .active => d.active
  | .writes => d.writes
  | .reads => d.reads

/-- How the value of a field is read. -/
def readField : (f : Field) → YamlValue → Fit f.Value
  | .name, v => v.asText .text
  | .active, v => v.asText .text
  | .writes, v => v.asList IntegrationDeclaration.ofDocument
  | .reads, v => v.asList IntegrationDeclaration.ofDocument

theorem Draft.of_put {d d' : Draft} {f : Field} {v : YamlValue} (h : d.put f v = .ok d') :
    d.get f = none ∧ ∃ x, readField f v = .ok x ∧ d'.get f = some x ∧
      ∀ g, g ≠ f → d'.get g = d.get g := by
  cases f <;>
  · obtain ⟨hnone, x, hx, rfl⟩ := map_once_eq_ok_iff.1 h
    refine ⟨hnone, x, hx, rfl, fun g hg => ?_⟩
    cases g <;> first | rfl | exact absurd rfl hg

theorem Draft.exists_put {d : Draft} {f : Field} {v : YamlValue} {x : f.Value}
    (hnone : d.get f = none) (hx : readField f v = .ok x) : ∃ d', d.put f v = .ok d' := by
  cases f <;> exact ⟨_, map_once_eq_ok_iff.2 ⟨hnone, x, hx, rfl⟩⟩

theorem drafts : Drafts Draft.put Draft.get readField where
  exists_put := Draft.exists_put
  empty h := (Draft.of_put h).1
  filled h := (Draft.of_put h).2.imp fun _ hx => ⟨hx.1, hx.2.1⟩
  others h := (Draft.of_put h).2.elim fun _ hx => hx.2.2

theorem get_blank (f : Field) : ({} : Draft).get f = none := by
  cases f <;> rfl

/-- What the entries of a catalog have under a field. -/
def under (entries : List (YamlValue × YamlValue)) (f : Field) : Option f.Value :=
  kind.fieldOf readField entries f

/-- The entries spell out a catalog. -/
structure SpelledBy (c : CatalogDeclaration) (entries : List (YamlValue × YamlValue)) : Prop where
  readable : kind.Readable readField entries
  name : under entries .name = some c.name
  active : under entries .active = some c.active
  writes : under entries .writes = some c.writes
  reads : (under entries .reads).getD [] = c.reads

theorem Draft.finish_eq_ok_iff {draft : Draft} {c : CatalogDeclaration} : draft.finish = .ok c ↔
    draft.name = some c.name ∧ draft.active = some c.active ∧ draft.writes = some c.writes ∧
      draft.reads.getD [] = c.reads := by
  constructor
  · intro h
    obtain ⟨name, hname, h⟩ := exists_of_bind_ok h
    obtain ⟨active, hactive, h⟩ := exists_of_bind_ok h
    obtain ⟨writes, hwrites, h⟩ := exists_of_bind_ok h
    obtain rfl := Except.ok.inj h
    exact ⟨required_eq_ok_iff.1 hname, required_eq_ok_iff.1 hactive, required_eq_ok_iff.1 hwrites, rfl⟩
  · rintro ⟨hname, hactive, hwrites, hreads⟩
    obtain ⟨name, active, writes, reads⟩ := draft
    obtain rfl : name = _ := hname
    obtain rfl : active = _ := hactive
    obtain rfl : writes = _ := hwrites
    cases c
    simp only at hreads
    subst hreads
    rfl

/-- A document is read as a catalog that its entries spell out. -/
theorem ofDocument_eq_ok_iff {v : YamlValue} {c : CatalogDeclaration} :
    ofDocument v = .ok c ↔
      ∃ entries, v.asEntries (.record kind.title) = .ok entries ∧ c.SpelledBy entries := by
  constructor
  · intro h
    obtain ⟨draft, hread, hfinish⟩ := exists_of_bind_ok h
    obtain ⟨entries, hentries, hreadable, hget⟩ := RecordKind.read_eq_ok drafts get_blank hread
    obtain ⟨hname, hactive, hwrites, hreads⟩ := Draft.finish_eq_ok_iff.1 hfinish
    refine ⟨entries, hentries, hreadable, (hget .name).symm.trans hname,
      (hget .active).symm.trans hactive, (hget .writes).symm.trans hwrites, ?_⟩
    exact (congrArg (Option.getD · []) (hget .reads)).symm.trans hreads
  · rintro ⟨entries, hentries, h⟩
    obtain ⟨draft, hread, hget⟩ := RecordKind.exists_read drafts get_blank hentries h.readable
    rw [ofDocument, hread]
    refine Draft.finish_eq_ok_iff.2 ⟨(hget .name).trans h.name, (hget .active).trans h.active,
      (hget .writes).trans h.writes, ?_⟩
    exact (congrArg (Option.getD · []) (hget .reads)).trans h.reads

end CatalogDeclaration

/-! ## All declarations -/

namespace Declarations

/-- How the value of the only field is read. -/
def readField (_ : Unit) (v : YamlValue) : Fit (List CatalogDeclaration) :=
  v.asList CatalogDeclaration.ofDocument

theorem drafts : Drafts put (fun catalogs _ => catalogs) readField where
  exists_put hnone hx := ⟨_, once_eq_ok_iff.2 ⟨hnone, _, hx, rfl⟩⟩
  empty h := (once_eq_ok_iff.1 h).1
  filled h := (once_eq_ok_iff.1 h).2
  others _ _ hg := absurd rfl hg

/-- What the entries have under the only key. -/
def under (entries : List (YamlValue × YamlValue)) : Option (List CatalogDeclaration) :=
  kind.fieldOf readField entries ()

/-- The entries spell out declarations. -/
structure SpelledBy (d : Declarations) (entries : List (YamlValue × YamlValue)) : Prop where
  readable : kind.Readable readField entries
  catalogs : under entries = some d.catalogs

/-- A document is read as the declarations that its entries spell out. -/
theorem ofDocument_eq_ok_iff {v : YamlValue} {d : Declarations} :
    ofDocument v = .ok d ↔
      ∃ entries, v.asEntries (.record kind.title) = .ok entries ∧ d.SpelledBy entries := by
  constructor
  · intro h
    obtain ⟨draft, hread, h⟩ := exists_of_bind_ok h
    obtain ⟨catalogs, hcatalogs, h⟩ := exists_of_bind_ok h
    obtain rfl := Except.ok.inj h
    obtain ⟨entries, hentries, hreadable, hget⟩ :=
      RecordKind.read_eq_ok drafts (fun _ => rfl) hread
    exact ⟨entries, hentries, hreadable, (hget ()).symm.trans (required_eq_ok_iff.1 hcatalogs)⟩
  · rintro ⟨entries, hentries, h⟩
    obtain ⟨draft, hread, hget⟩ :=
      RecordKind.exists_read drafts (fun _ => rfl) hentries h.readable
    obtain rfl : draft = some d.catalogs := (hget ()).trans h.catalogs
    rw [ofDocument, hread]
    rfl

end Declarations

end Lakehouse
