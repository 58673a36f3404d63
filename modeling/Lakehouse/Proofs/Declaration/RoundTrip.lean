import Lakehouse.Proofs.Declaration.Extended
import Lakehouse.Proofs.Declaration.Respelled

/-!
# Declarations and their documents

Declarations can be read back from the document that spells them out, as long as the properties of their
integrations are plain. What is written is what is read: every key is there once, in its first spelling,
and the entries of a map of properties are in the order of their names.

- `YamlValue.Plain`: values that are put together of null, booleans, whole numbers and texts.
- `YamlValue.Plain.asProperty`: as a property such a value is itself.
- `Declarations.ofDocument_document`: declarations are read back.
- **`schema_round_trips`**: that, and which other documents are read as the same declarations, which are
  refused and which are read as declarations with one more property.
-/

namespace Lakehouse

/-! ## Plain values -/

namespace YamlValue

variable {v : YamlValue}

/-- A value that is put together of null, booleans, whole numbers and texts by lists and by maps with
texts for keys. -/
inductive Plain : YamlValue → Prop
  | null : Plain null
  | bool (b : Bool) : Plain (bool b)
  | int (n : Int) : Plain (int n)
  | text (s : String) : Plain (text s)
  | list {items : List YamlValue} (h : ∀ v ∈ items, Plain v) : Plain (list items)
  | map {entries : List (String × YamlValue)} (hdistinct : (entries.map (·.1)).Nodup)
      (h : ∀ e ∈ entries, Plain e.2) : Plain (ofEntries entries)

theorem propertyItems_eq {items : List YamlValue} (h : ∀ v ∈ items, v.asProperty = .ok v) :
    propertyItems items = .ok items := by
  induction items with
  | nil => rfl
  | cons v rest ih =>
    obtain ⟨hv, hrest⟩ := List.forall_mem_cons.1 h
    rw [propertyItems, hv, ih hrest]
    rfl

/-- A text is a key of entries with texts for keys if it is one of these. -/
theorem hasKey_texts {entries : List (String × YamlValue)} {s : String} :
    hasKey (entries.map fun e => (text e.1, e.2)) (text s) = true ↔ s ∈ entries.map (·.1) := by
  simp [hasKey, same]

/-- Entries with texts for keys are read as they are, after others whose keys are different texts. -/
theorem propertyEntries_eq (read : List (String × YamlValue)) {entries : List (String × YamlValue)}
    (hdistinct : ((read.reverse ++ entries).map (·.1)).Nodup)
    (h : ∀ e ∈ entries, e.2.asProperty = .ok e.2) :
    propertyEntries (read.map fun e => (text e.1, e.2)) (entries.map fun e => (text e.1, e.2)) =
      .ok ((read.reverse ++ entries).map fun e => (text e.1, e.2)) := by
  induction entries generalizing read with
  | nil => simp [propertyEntries]
  | cons e rest ih =>
    obtain ⟨he, hrest⟩ := List.forall_mem_cons.1 h
    have hnew : ¬ hasKey (read.map fun e => (text e.1, e.2)) (text e.1) = true := by
      rw [hasKey_texts]
      intro hmem
      rw [List.map_append, List.map_reverse, List.nodup_append] at hdistinct
      exact hdistinct.2.2 _ (List.mem_reverse.2 hmem) _ List.mem_cons_self rfl
    have hnext := ih (e :: read) (by simpa using hdistinct) hrest
    have hkey : (text e.1).asProperty = .ok (text e.1) := rfl
    rw [List.map_cons, propertyEntries, hkey, he]
    simp only [bind, Except.bind, hnew]
    simpa using hnext

/-- A plain value is itself as a property. -/
theorem Plain.asProperty (h : v.Plain) : v.asProperty = .ok v := by
  induction h with
  | null => rfl
  | bool b => rfl
  | int n => rfl
  | text s => rfl
  | list _ ih =>
    rw [YamlValue.asProperty, propertyItems_eq ih]
    rfl
  | map hdistinct _ ih =>
    have hentries := propertyEntries_eq [] hdistinct ih
    rw [List.map_nil, List.reverse_nil, List.nil_append] at hentries
    rw [ofEntries, YamlValue.asProperty, hentries]
    rfl

/-- Plain properties are read back. -/
theorem asProperties_ofEntries {m : NameMap YamlValue} (h : ∀ e ∈ m.entries, e.2.Plain) :
    (ofEntries m.entries).asProperties = .ok m := by
  refine asProperties_eq_ok_iff.2 ⟨_, m.entries, asEntries_of_map rfl, ?_, m.ofList_entries⟩
  rw [mapM_eq_ok_iff, List.forall₂_map_left_iff, List.forall₂_same]
  exact fun e he => propertyEntry_eq_ok_iff.2 ⟨rfl, (h e he).asProperty⟩

theorem asOptionalText_ofOptionalText (o : Option String) :
    (ofOptionalText o).asOptionalText = .ok o := by
  cases o <;> rfl

/-- A list is read back if its items are. -/
theorem asList_list {α : Type} {item : YamlValue → Fit α} {document : α → YamlValue} {as : List α}
    (h : ∀ a ∈ as, item (document a) = .ok a) : (list (as.map document)).asList item = .ok as := by
  rw [asList, asItems_of_list rfl]
  refine mapM_eq_ok_iff.2 ?_
  rw [List.forall₂_map_left_iff, List.forall₂_same]
  exact h

end YamlValue

/-! ## Declarations that are read back -/

namespace IntegrationDeclaration

variable {d : IntegrationDeclaration}

/-- The properties of the integration are plain. -/
def Plain (d : IntegrationDeclaration) : Prop :=
  ∀ e ∈ d.properties.entries, e.2.Plain

theorem readable_document (h : d.Plain) : kind.Readable readField d.document.recordEntries := by
  have hproperties := YamlValue.asProperties_ofEntries h
  refine ⟨?_, ?_⟩
  · show ∀ e ∈ [_, _, _, _, _, _], _
    simp only [List.forall_mem_cons]
    exact ⟨⟨.name, d.name, rfl, rfl⟩, ⟨.catalogType, d.catalogType, rfl, rfl⟩,
      ⟨.tableFormat, d.tableFormat, rfl, YamlValue.asOptionalText_ofOptionalText _⟩,
      ⟨.fileFormat, d.fileFormat, rfl, YamlValue.asOptionalText_ofOptionalText _⟩,
      ⟨.externalVolume, d.externalVolume, rfl, YamlValue.asOptionalText_ofOptionalText _⟩,
      ⟨.properties, d.properties, rfl, hproperties⟩, by simp⟩
  · show List.Nodup [some Field.name, some .catalogType, some .tableFormat, some .fileFormat,
      some .externalVolume, some .properties]
    decide

/-- An integration with plain properties is read back. -/
theorem ofDocument_document (h : d.Plain) : ofDocument d.document = .ok d := by
  have hformat (o : Option String) : (YamlValue.ofOptionalText o).asOptionalText.toOption.join = o :=
    congrArg (fun read => read.toOption.join) (YamlValue.asOptionalText_ofOptionalText o)
  refine ofDocument_eq_ok_iff.2 ⟨_, YamlValue.asEntries_of_map rfl, ?_⟩
  exact {
    readable := readable_document h
    name := rfl
    catalogType := rfl
    tableFormat := hformat d.tableFormat
    fileFormat := hformat d.fileFormat
    externalVolume := hformat d.externalVolume
    properties := congrArg (fun read => read.toOption.getD .empty) (YamlValue.asProperties_ofEntries h)
  }

end IntegrationDeclaration

namespace CatalogDeclaration

variable {c : CatalogDeclaration}

/-- The properties of the catalog's integrations are plain. -/
def Plain (c : CatalogDeclaration) : Prop :=
  ∀ d ∈ c.integrations, d.Plain

/-- A catalog whose integrations have plain properties is read back. -/
theorem ofDocument_document (h : c.Plain) : ofDocument c.document = .ok c := by
  obtain ⟨hwrites, hreads⟩ := List.forall_mem_append.1 h
  have hlist {as : List IntegrationDeclaration} (has : ∀ d ∈ as, d.Plain) :
      (YamlValue.list (as.map IntegrationDeclaration.document)).asList
        IntegrationDeclaration.ofDocument = .ok as :=
    YamlValue.asList_list fun d hd => IntegrationDeclaration.ofDocument_document (has d hd)
  have hreadable : kind.Readable readField c.document.recordEntries := by
    refine ⟨?_, ?_⟩
    · show ∀ e ∈ [_, _, _, _], _
      simp only [List.forall_mem_cons]
      exact ⟨⟨.name, c.name, rfl, rfl⟩, ⟨.active, c.active, rfl, rfl⟩,
        ⟨.writes, c.writes, rfl, hlist hwrites⟩, ⟨.reads, c.reads, rfl, hlist hreads⟩, by simp⟩
    · show List.Nodup [some Field.name, some .active, some .writes, some .reads]
      decide
  refine ofDocument_eq_ok_iff.2 ⟨_, YamlValue.asEntries_of_map rfl, ?_⟩
  exact {
    readable := hreadable
    name := rfl
    active := rfl
    writes := congrArg Except.toOption (hlist hwrites)
    reads := congrArg (fun read => read.toOption.getD []) (hlist hreads)
  }

end CatalogDeclaration

namespace Declarations

/-- The properties of all integrations are plain. -/
def Plain (d : Declarations) : Prop :=
  ∀ c ∈ d.catalogs, c.Plain

/-- Declarations with plain properties are read back. -/
theorem ofDocument_document {d : Declarations} (h : d.Plain) : ofDocument d.document = .ok d := by
  have hlist : (YamlValue.list (d.catalogs.map CatalogDeclaration.document)).asList
      CatalogDeclaration.ofDocument = .ok d.catalogs :=
    YamlValue.asList_list fun c hc => CatalogDeclaration.ofDocument_document (h c hc)
  have hreadable : kind.Readable readField d.document.recordEntries := by
    refine ⟨?_, List.nodup_singleton _⟩
    show ∀ e ∈ [_], _
    simp only [List.forall_mem_cons]
    exact ⟨⟨(), d.catalogs, rfl, hlist⟩, by simp⟩
  exact ofDocument_eq_ok_iff.2 ⟨_, YamlValue.asEntries_of_map rfl, hreadable,
    congrArg Except.toOption hlist⟩

end Declarations

/-- **Declarations and documents.** Declarations with plain properties are read back from their document.
A document that is spelled otherwise is read as the same declarations, and one with misspelled keys is
refused. One with a further property of an integration is read as the declarations with that property. -/
theorem schema_round_trips :
    (∀ d : Declarations, d.Plain → Declarations.ofDocument d.document = .ok d) ∧
    (∀ v w d, Declarations.ofDocument v = .ok d → Declarations.Respelled v w →
      Declarations.ofDocument w = .ok d) ∧
    (∀ v, Declarations.Misspelled v → ∃ misfit, Declarations.ofDocument v = .error misfit) ∧
    ∀ v w d i side j key x p, Declarations.ofDocument v = .ok d →
      Declarations.PropertyAdded i side j key x v w → x.asProperty = .ok p →
      Declarations.ofDocument w = .ok (d.modify i
        (CatalogDeclaration.modify side j (IntegrationDeclaration.withProperty key p))) :=
  ⟨fun _ => Declarations.ofDocument_document, fun _ _ _ hv h => Declarations.ofDocument_respelled h hv,
    fun _ => Declarations.error_of_misspelled,
    fun _ _ _ _ _ _ _ _ _ hv h hx => Declarations.ofDocument_propertyAdded h hx hv⟩

/-- An integration with one property. -/
def glueIntegration : IntegrationDeclaration where
  name := "glue"
  catalogType := "glue"
  properties := .ofList [("bucket", .text "b")]

/-- A catalog that is written through it. -/
def glueCatalog : CatalogDeclaration where
  name := "lake"
  active := "glue"
  writes := [glueIntegration]

/-- The integration in other spellings, without what may be left out, and with more properties. -/
def shortIntegration (properties : List (String × YamlValue)) : YamlValue :=
  .ofEntries [("integration_name", .text "glue"), ("catalog_type", .text "glue"),
    ("adapter_properties", .ofEntries ([("bucket", .text "b")] ++ properties))]

/-- The catalog in other spellings, without what may be left out, and with more keys. -/
def shortCatalog (keys properties : List (String × YamlValue)) : YamlValue :=
  .ofEntries (keys ++ [("catalog_name", .text "lake"), ("active_write_integration", .text "glue"),
    ("write_integrations", .list [shortIntegration properties])])

/-- A document with that catalog. -/
def shortDocument (keys properties : List (String × YamlValue)) : YamlValue :=
  .ofEntries [("catalogs", .list [shortCatalog keys properties])]

theorem schema_round_trips_glue :
    Declarations.ofDocument (Declarations.document ⟨[glueCatalog]⟩) = .ok ⟨[glueCatalog]⟩ ∧
      Declarations.ofDocument (shortDocument [] []) = .ok ⟨[glueCatalog]⟩ ∧
      (∃ misfit, Declarations.ofDocument (shortDocument [("name", .text "lake")] []) = .error misfit) ∧
      Declarations.ofDocument (shortDocument [] [("region", .bool true)]) =
        .ok ⟨[glueCatalog.modify .writes 0
          (IntegrationDeclaration.withProperty "region" (.bool true))]⟩ := by
  obtain ⟨hback, hsame, hrefused, hmore⟩ := schema_round_trips
  have hplain : Declarations.Plain ⟨[glueCatalog]⟩ := by
    have hintegration : glueIntegration.Plain := List.forall_mem_singleton.2 (.text "b")
    exact List.forall_mem_singleton.2 (List.forall_mem_singleton.2 hintegration)
  have hintegration : IntegrationDeclaration.Respelled glueIntegration.document (shortIntegration []) :=
    .inr ⟨_, _, rfl, rfl,
      .kept rfl rfl (.inr ⟨_, List.mem_cons_self, by decide, by decide⟩) (.inl rfl)
        (.kept rfl rfl (.inl rfl) (.inl rfl)
          (.leftOut rfl (.inl ⟨by decide, rfl⟩) (.leftOut rfl (.inl ⟨by decide, rfl⟩)
            (.leftOut rfl (.inl ⟨by decide, rfl⟩) (.kept rfl rfl (.inl rfl) (.inl rfl) .nil)))))⟩
  have hcatalog : CatalogDeclaration.Respelled glueCatalog.document (shortCatalog [] []) :=
    .inr ⟨_, _, rfl, rfl,
      .kept rfl rfl (.inr ⟨_, List.mem_cons_self, by decide, by decide⟩) (.inl rfl)
        (.kept rfl rfl (.inl rfl) (.inl rfl)
          (.kept rfl rfl (.inl rfl) (.inr ⟨by decide, _, _, rfl, rfl, .cons hintegration .nil⟩)
            (.leftOut rfl ⟨rfl, rfl⟩ .nil)))⟩
  have hrespelled : Declarations.Respelled (Declarations.document ⟨[glueCatalog]⟩)
      (shortDocument [] []) :=
    .inr ⟨_, _, rfl, rfl, .kept rfl rfl (.inl rfl)
      (.inr ⟨rfl, _, _, rfl, rfl, .cons hcatalog .nil⟩) .nil⟩
  have hread := hsame _ _ _ (hback _ hplain) hrespelled
  have hmisspelled : Declarations.Misspelled (shortDocument [("name", .text "lake")] []) :=
    .catalog (c := shortCatalog [("name", .text "lake")] []) List.mem_cons_self
      (.twice (s := "catalog_name") (t := "name") List.mem_cons_self (by decide) (by decide) (by decide)
        ⟨_, .tail _ (.head _), rfl⟩ ⟨_, .head _, rfl⟩)
  have hadded : Declarations.PropertyAdded 0 .writes 0 "region" (.bool true) (shortDocument [] [])
      (shortDocument [] [("region", .bool true)]) :=
    .intro [] [] rfl rfl rfl (.intro rfl rfl rfl
      (.intro ((shortCatalog [] []).recordEntries.take 2) [] rfl rfl rfl (.intro rfl rfl rfl
        (.intro ((shortIntegration []).recordEntries.take 2) [] rfl rfl rfl
          (.intro [(.text "bucket", .text "b")] [] rfl rfl rfl (by decide))))))
  exact ⟨hback _ hplain, hread, hrefused _ hmisspelled, hmore _ _ _ _ _ _ _ _ _ hread hadded rfl⟩

end Lakehouse
