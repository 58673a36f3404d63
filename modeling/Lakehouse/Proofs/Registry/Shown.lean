import Lakehouse.Proofs.Declaration.Understood
import Lakehouse.Proofs.Integration.Filled
import Lakehouse.Proofs.Registry.Naming

/-!
# What templates see of a relation

A relation is seen in two ways: templates read it as a map, and it is written out as a record. Both have
the same fields in the same order, and a template finds under each name what the record has there. Only
the catalog type is shown in capitals, and an optional text is shown without the blanks around it and,
when nothing is left of it, as null.

- `Json.asTemplate`: a value of a record as a template value.
- `StorageRelation.shownAs`: what a template finds where a record has a value (`fields_eq`).
- `StorageRelation.exists_field?_iff`: the names are listed apart from what is found under them, and
  something is found under each.
- `Registry.exists_declared_of_get`: what is stored in a registry that is made of declarations comes
  from one of them.
- **`templates_see_what_is_recorded`**: what templates see of any relation, and that of a resolved
  relation they see null exactly where the record has null.
-/

namespace Lakehouse

/-! ## Records as template values -/

mutual

/-- A JSON value as a template value. -/
def Json.asTemplate : Json → TemplateValue
  | .null => .null
  | .bool b => .bool b
  | .int n => .int n
  | .number x => .float x
  | .string s => .text s
  | .array items => .list (Json.itemsAsTemplate items)
  | .object members => .map (Json.membersAsTemplate members)

/-- The items of a list. -/
def Json.itemsAsTemplate : List Json → List TemplateValue
  | [] => []
  | item :: rest => item.asTemplate :: Json.itemsAsTemplate rest

/-- The members of an object. -/
def Json.membersAsTemplate : List (String × Json) → List (String × TemplateValue)
  | [] => []
  | (key, member) :: rest => (key, member.asTemplate) :: Json.membersAsTemplate rest

end

/-- A list of texts as a list of texts. -/
theorem Json.itemsAsTemplate_strings (ss : List String) :
    Json.itemsAsTemplate (ss.map .string) = ss.map .text := by
  induction ss with
  | nil => rfl
  | cons s rest ih => rw [List.map_cons, List.map_cons, itemsAsTemplate, asTemplate, ih]

namespace StorageRelation

/-- The names of the optional texts. -/
def optionalTextNames : List String :=
  ["external_volume", "storage_uri", "base_location", "external_schema", "glue_database", "namespace",
    "change_tracking", "storage_serialization_policy"]

/-- A text without the blanks around it, or null when nothing is left. -/
def shownText (s : String) : TemplateValue :=
  if Text.trim s = "" then .null else .text (Text.trim s)

/-- What a template finds under a name where a record has a value: the same, but a catalog type in
capitals, and an optional text without the blanks around it. -/
def shownAs (name : String) (value : Json) : TemplateValue :=
  match value with
  | .string s =>
    if name = "catalog_type" then .text (String.ofList (s.toList.map Char.toUpper))
    else if name ∈ optionalTextNames then shownText s
    else .text s
  | other => other.asTemplate

variable {r : StorageRelation} {name : String}

theorem textField_eq (hname : name ∈ optionalTextNames) (s : Option String) :
    textField s = shownAs name (recordField .string s) := by
  cases s with
  | none => rfl
  | some s =>
    have htype : name ≠ "catalog_type" := by
      rintro rfl
      exact absurd hname (by decide)
    rw [recordField, shownAs, if_neg htype, if_pos hname, shownText, textField, Option.bind_some,
      Text.trimmed?_eq]
    by_cases hblank : Text.trim s = ""
    · rw [if_pos hblank, if_pos hblank]
    · rw [if_neg hblank, if_neg hblank]

theorem listField_eq (items : Option (List String)) :
    listField items =
      shownAs name (recordField (fun columns => .array (columns.map .string)) items) := by
  cases items with
  | none => rfl
  | some ss => simp only [listField, recordField, shownAs, Json.asTemplate, Json.itemsAsTemplate_strings]

theorem countField_eq (n : Option Nat) :
    countField n = shownAs name (recordField (fun days => .int days) n) := by
  cases n <;> rfl

theorem plainText_eq (htype : name ≠ "catalog_type") (hname : name ∉ optionalTextNames) (s : String) :
    .text s = shownAs name (.string s) := by
  rw [shownAs, if_neg htype, if_neg hname]

/-- The map that templates see is the record, value by value. -/
theorem fields_eq (r : StorageRelation) : r.fields = r.record.map fun e => (e.1, shownAs e.1 e.2) := by
  simp only [fields, fieldNames, record, List.map_cons, List.map_nil, List.cons.injEq, Prod.mk.injEq,
    true_and, and_true]
  exact ⟨plainText_eq (by decide) (by decide) _, rfl, plainText_eq (by decide) (by decide) _,
    plainText_eq (by decide) (by decide) _,
    textField_eq (by decide) _, textField_eq (by decide) _, textField_eq (by decide) _,
    listField_eq _, textField_eq (by decide) _, textField_eq (by decide) _,
    textField_eq (by decide) _, textField_eq (by decide) _, textField_eq (by decide) _,
    countField_eq _, countField_eq _, rfl⟩

theorem names_fields (r : StorageRelation) : r.fields.map (·.1) = fieldNames := by
  rw [fields, List.map_map]
  exact List.map_id _

theorem names_record (r : StorageRelation) : r.record.map (·.1) = fieldNames := by
  rw [← r.names_fields, fields_eq, List.map_map]
  rfl

/-- A template finds a field under its name. -/
theorem get_of_mem_record {e : String × Json} (h : e ∈ r.record) :
    r.get (.text e.1) = shownAs e.1 e.2 := by
  have hfields : r.record.map (fun e => (e.1, r.get (.text e.1))) =
      r.record.map fun e => (e.1, shownAs e.1 e.2) := by
    rw [← fields_eq, fields, ← r.names_record, List.map_map]
    rfl
  exact (Prod.mk.inj (List.map_inj_left.1 hfields e h)).2

/-- Something is found under every name that is listed, and under no other name but one. -/
theorem exists_field?_iff :
    (∃ v, r.field? name = some v) ↔ name ∈ fieldNames ∨ name = "is_iceberg" := by
  constructor
  · rintro ⟨v, h⟩
    unfold field? at h
    -- one case for each name that is looked up, and the last for all others
    split at h
    all_goals first | decide | cases h
  · have hlisted : fieldNames.all (fun name => (r.field? name).isSome) = true := rfl
    rintro (hname | rfl)
    · exact Option.isSome_iff_exists.1 (List.all_eq_true.1 hlisted name hname)
    · exact ⟨_, rfl⟩

/-! ## Null where a record has null -/

theorem shownAs_eq_null_iff {value : Json} (hfilled : ∀ s, value = .string s → Text.Filled s) :
    shownAs name value = .null ↔ value = .null := by
  cases value with
  | string s =>
    have hne : Text.trim s ≠ "" := Text.filled_iff_trim.1 (hfilled s rfl)
    refine iff_of_false ?_ (by simp)
    rw [shownAs, shownText, if_neg hne]
    split
    · simp
    · split <;> simp
  | null => exact iff_of_true rfl rfl
  | bool | int | number | array | object => simp [shownAs, Json.asTemplate]

/-- The texts in a record are the name of the catalog, some tokens and the optional texts. -/
theorem filled_of_mem_record (h : r.Filled) :
    ∀ e ∈ r.record, ∀ s, e.2 = .string s → Text.Filled s := by
  have hown {t : String} (ht : Text.Filled t) : ∀ s, Json.string t = .string s → Text.Filled s := by
    intro s hs
    exact Json.string.inj hs ▸ ht
  have hoptional {t : Option String} (name : String) (hmem : (name, t) ∈ r.optionalTexts) :
      ∀ s, recordField .string t = .string s → Text.Filled s := by
    intro s hs
    cases t with
    | none => cases hs
    | some t => exact hown (h.texts _ hmem t rfl) s hs
  have hother {α : Type} {value : α → Json} {a : Option α} (hvalue : ∀ a s, value a ≠ .string s) :
      ∀ s, recordField value a = .string s → Text.Filled s := by
    intro s hs
    cases a with
    | none => cases hs
    | some a => exact absurd hs (hvalue a s)
  have htype : ∀ t : CatalogType, Text.Filled t.token := by
    intro t
    cases t <;> decide
  have htable : ∀ t : TableFormat, Text.Filled t.token := by
    intro t
    cases t <;> decide
  have hfile : ∀ t : FileFormat, Text.Filled t.token := by
    intro t
    cases t <;> decide
  simp only [record, List.forall_mem_cons]
  refine ⟨hown h.catalogName, hown (htype _), hown (htable _), hown (hfile _),
    hoptional "external_volume" ?_, hoptional "storage_uri" ?_, hoptional "base_location" ?_,
    hother (by simp), hoptional "external_schema" ?_, hoptional "glue_database" ?_,
    hoptional "namespace" ?_, hoptional "change_tracking" ?_,
    hoptional "storage_serialization_policy" ?_, hother (by simp), hother (by simp), by simp, by simp⟩
  all_goals simp [optionalTexts]

/-- Templates and records show the same relation.

- `names`: they have the same names in the same order.
- `found_iff`: something is found under each of these names, and under no other but that of what is not
  recorded.
- `values`: a template finds under each name what the record has there, a catalog type in capitals and
  an optional text without the blanks around it. -/
structure ShownAsRecorded (r : StorageRelation) : Prop where
  names : r.fields.map (·.1) = r.record.map (·.1)
  found_iff : ∀ name, (∃ v, r.field? name = some v) ↔
    name ∈ r.fields.map (·.1) ∨ name = "is_iceberg"
  values : ∀ e ∈ r.record, r.get (.text e.1) = shownAs e.1 e.2

theorem shownAsRecorded (r : StorageRelation) : r.ShownAsRecorded where
  names := r.names_fields.trans r.names_record.symm
  found_iff name := by
    rw [r.names_fields]
    exact exists_field?_iff
  values _ he := get_of_mem_record he

/-- Nothing that is set is hidden from templates.

- `null_iff`: a template finds null under a name exactly if the record has null there.
- `filled`: no text in the record is blank. -/
structure ShownInFull (r : StorageRelation) : Prop where
  null_iff : ∀ e ∈ r.record, r.get (.text e.1) = .null ↔ e.2 = .null
  filled : ∀ e ∈ r.record, ∀ s, e.2 = .string s → Text.isBlankText s = false

theorem Filled.shownInFull (h : r.Filled) : r.ShownInFull := by
  refine ⟨fun e he => ?_, filled_of_mem_record h⟩
  rw [get_of_mem_record he]
  exact shownAs_eq_null_iff (filled_of_mem_record h e he)

end StorageRelation

/-! ## Resolved relations -/

namespace Registry

variable {b : Backend} {d : Declarations} {path name : String} {r : Registry} {i : Integration}
  {m : Model} {relation : StorageRelation}

/-- What is stored comes from a declaration. -/
theorem exists_declared_of_get (h : ofDeclarations b d = .ok r) (hget : r.get name = .ok i) :
    ∃ (declared : IntegrationDeclaration) (writes : Bool) (c : IntegrationConfig),
      declared.toConfig name writes = .ok c ∧ Integration.onBackend b c = .ok i := by
  obtain ⟨configs, hconfigs, -⟩ := exists_ofDeclarations_iff.1 ⟨r, h⟩
  have hfound {declared : IntegrationDeclaration} {writes : Bool} {c : IntegrationConfig}
      (hmem : c ∈ configs) (hc : declared.toConfig name writes = .ok c) :
      ∃ (declared : IntegrationDeclaration) (writes : Bool) (c : IntegrationConfig),
        declared.toConfig name writes = .ok c ∧ Integration.onBackend b c = .ok i := by
    obtain ⟨config, j, hconfig, hbuilt, hj, -⟩ := stores_of_ofDeclarations h hconfigs hmem hc
    obtain rfl : j = i := Except.ok.inj (hj.symm.trans hget)
    exact ⟨declared, writes, config, hconfig, hbuilt⟩
  have hname : name ∈ d.names := (names_of_ofDeclarations h).mem_iff.1 (mem_names_iff.2 ⟨i, hget⟩)
  obtain ⟨catalog, hcatalog, hname⟩ := List.mem_flatMap.1 hname
  rcases List.mem_cons.1 hname with rfl | hname
  · obtain ⟨active, -, c, hmem, hc⟩ := Declarations.exists_config_of_active hconfigs hcatalog
    exact hfound hmem hc
  · obtain ⟨read, hread, rfl⟩ := List.mem_map.1 hname
    obtain ⟨c, hmem, hc⟩ := Declarations.exists_config_of_read hconfigs hcatalog hread
    exact hfound hmem hc

theorem onBackend_native (h : ofDeclarations b d = .ok r) :
    Integration.onBackend b nativeConfig = .ok r.native := by
  obtain ⟨⟨fresh, calls, hnew, rfl⟩, -⟩ := (Reached.ofDeclarations h).exists_run
  rw [(tracks_run hnew calls).native]
  obtain ⟨native, hnative, rfl⟩ := exists_of_map_ok hnew
  exact hnative

/-- A model is resolved through a declaration whose name and volume are not blank. -/
theorem exists_filled_of_integrationFor (hrules : d.WellFormed) (h : ofDeclarations b d = .ok r)
    (hi : r.integrationFor m = .ok i) :
    ∃ c : IntegrationConfig, c.Filled ∧ Integration.onBackend b c = .ok i := by
  unfold integrationFor at hi
  split at hi
  · obtain rfl := Except.ok.inj hi
    exact ⟨nativeConfig, ⟨by decide, filledIfSet_none⟩, onBackend_native h⟩
  · next name _ =>
    obtain ⟨declared, writes, c, hc, hbuilt⟩ := exists_declared_of_get h hi
    have hmeans := IntegrationDeclaration.means_of_toConfig hc
    have hname : name ∈ d.names :=
      (names_of_ofDeclarations h).mem_iff.1 (mem_names_iff.2 ⟨i, hi⟩)
    refine ⟨c, ⟨?_, fun volume hvolume => ?_⟩, hbuilt⟩
    · rw [hmeans.name]
      exact filled_of_mem_names hrules hname
    · exact Text.filled_iff_trim.2 ((hmeans.externalVolume volume).1 hvolume).2

theorem filled_of_resolve (hrules : d.WellFormed) (h : ofDeclarations b d = .ok r) (hm : m.Filled)
    (hresolved : r.resolve m = .ok relation) : relation.Filled := by
  rw [resolve_eq] at hresolved
  obtain ⟨i, hi, hresolved⟩ := exists_of_bind_ok hresolved
  obtain ⟨c, hc, hbuilt⟩ := exists_filled_of_integrationFor hrules h hi
  have hfields :=
    Integration.fieldByField_of_madeFrom (Integration.madeFrom_of_onBackend hbuilt) hresolved
  exact Integration.filled_of_fieldByField hfields hc hm

end Registry

/-- **Templates see what is recorded.** Every relation is shown to templates as it is recorded. Of a
relation that is resolved from declarations which keep the rules, and from a model that was read, they
see null exactly where the record has null, because there is no blank text in it. -/
theorem templates_see_what_is_recorded :
    (∀ relation : StorageRelation, relation.ShownAsRecorded) ∧
      ∀ (b : Backend) (d : Declarations) (path : String) (r : Registry) (v : TemplateValue) (m : Model)
        (relation : StorageRelation), d.validate path = .ok () → Registry.ofDeclarations b d = .ok r →
        Model.ofTemplate v = .ok m → r.resolve m = .ok relation → relation.ShownInFull := by
  refine ⟨StorageRelation.shownAsRecorded, ?_⟩
  intro b d path r v m relation hrules hdeclared hm hresolved
  have hfilled := Registry.filled_of_resolve (Declarations.validate_eq_ok_iff.1 hrules) hdeclared
    (Model.filled_of_ofTemplate hm) hresolved
  exact hfilled.shownInFull

/-- Blanks around an optional text are not shown, and a blank text is shown as null. -/
def blankRelation : StorageRelation where
  catalogName := " lake "
  catalogType := .builtIn
  tableFormat := .iceberg
  fileFormat := .parquet
  externalVolume := some " "
  storageUri := some " here "

theorem templates_see_what_is_recorded_lake :
    ∃ r m relation, Declarations.validate "catalogs.yml" ⟨[lakeCatalog]⟩ = .ok () ∧
      Registry.ofDeclarations .snowflake ⟨[lakeCatalog]⟩ = .ok r ∧
      Model.ofTemplate lakeModel = .ok m ∧ r.resolve m = .ok relation ∧ relation.ShownInFull ∧
      relation.get (.text "catalog_type") = .text "BUILT_IN" ∧
      relation.get (.text "storage_uri") = .text "_dbt/s/t" ∧
      blankRelation.ShownAsRecorded ∧
      blankRelation.get (.text "catalog_name") = .text " lake " ∧
      blankRelation.get (.text "external_volume") = .null ∧
      blankRelation.get (.text "storage_uri") = .text "here" := by
  obtain ⟨hshown, hfull⟩ := templates_see_what_is_recorded
  obtain ⟨r, m, relation, hr, hm, hresolved, htype, huri⟩ :
      ∃ r m relation, Registry.ofDeclarations .snowflake ⟨[lakeCatalog]⟩ = .ok r ∧
        Model.ofTemplate lakeModel = .ok m ∧ r.resolve m = .ok relation ∧
        relation.get (.text "catalog_type") = .text "BUILT_IN" ∧
        relation.get (.text "storage_uri") = .text "_dbt/s/t" :=
    ⟨_, _, _, rfl, rfl, rfl, rfl, rfl⟩
  have hrules : Declarations.validate "catalogs.yml" ⟨[lakeCatalog]⟩ = .ok () := rfl
  exact ⟨r, m, relation, hrules, hr, hm, hresolved,
    hfull .snowflake _ "catalogs.yml" r lakeModel m relation hrules hr hm hresolved, htype, huri,
    hshown blankRelation, rfl, rfl, rfl⟩

end Lakehouse
