import Lakehouse.Proofs.Integration.Resolved

/-!
# Precedence, field by field

For each field of a relation the model's own setting comes first, then what the integration declares,
then the default of the catalog type. A field is decided for itself: that a model overrides one of
them says nothing about the others.

- `FirstSet`: a value comes from the first of two settings that is there, each understood by its own
  rule.
- `baseLocation_eq`: a base location is the parts of a path that are not blank, with slashes between
  them.
- `Integration.CommonFields`, `Integration.ManagedFields`, `Integration.GlueFields`,
  `Integration.OtherFields`: where the fields of a relation come from.
- **`precedence_is_field_by_field`**: what an integration resolves, whatever is set and whatever is
  not.
- `locations_are_not_verbatim`: a base location is not always the parts as they are written.
-/

namespace Lakehouse

/-- A value comes from the first setting that is there. -/
inductive FirstSet {α β γ : Type} (own : α → Answer γ) (declared : β → Answer γ) :
    Option α → Option β → Option γ → Prop
  | own {a : α} {given : Option β} {value : γ} (h : own a = .ok value) :
      FirstSet own declared (some a) given (some value)
  | declared {b : β} {value : γ} (h : declared b = .ok value) :
      FirstSet own declared none (some b) (some value)
  | unset : FirstSet own declared none none none

/-! ## Base locations -/

theorem Text.trimmed?_eq (s : String) :
    trimmed? s = if trim s = "" then none else some (trim s) := by
  by_cases h : trim s = ""
  · rw [trimmed?, if_pos ((isBlankText_iff_trim s).2 h), if_pos h]
  · rw [trimmed?, if_neg fun hblank => h ((isBlankText_iff_trim s).1 hblank), if_neg h]

/-- The parts of a path are the trimmed texts that are not empty. -/
theorem pathParts_eq (parts : List (Option String)) :
    pathParts parts = (parts.map fun p => Text.trim (p.getD "")).filter (· ≠ "") := by
  induction parts with
  | nil => rfl
  | cons p rest ih =>
    have hrest : rest.filterMap (fun p => p.bind Text.trimmed?) = _ := ih
    rw [pathParts, List.filterMap_cons, hrest, List.map_cons, List.filter_cons]
    cases p with
    | none => rfl
    | some s =>
      simp only [Option.bind_some, Option.getD_some, Text.trimmed?_eq]
      by_cases h : Text.trim s = "" <;> simp [h]

/-- The first part of a base location: a root that is set and not blank, or else `_dbt`. -/
def effectiveRoot (root : Option String) : String :=
  if Text.trim (root.getD "") = "" then "_dbt" else Text.trim (root.getD "")

/-- A base location is the root and the other parts that are not blank, with slashes between them. -/
theorem baseLocation_eq (root subpath : Option String) (schema identifier : String) :
    baseLocation root subpath schema identifier =
      "/".intercalate (effectiveRoot root ::
        ([schema, identifier, subpath.getD ""].map Text.trim).filter (· ≠ "")) := by
  have hroot : (root.bind Text.trimmed?).getD "_dbt" = effectiveRoot root := by
    cases root with
    | none => rfl
    | some s =>
      rw [Option.bind_some, Text.trimmed?_eq, effectiveRoot, Option.getD_some]
      by_cases h : Text.trim s = "" <;> simp [h]
  rw [baseLocation, hroot, pathParts_eq, Text.joinWith_eq_intercalate]
  rfl

/-! ## Where fields come from -/

namespace Integration

/-- The fields that every integration resolves alike. Only the formats have defaults. -/
structure CommonFields (c : IntegrationConfig) (m : Model) (r : StorageRelation) : Prop where
  catalogName : r.catalogName = c.name
  catalogType : r.catalogType = c.catalogType
  tableFormat : ∃ format, FirstSet TableFormat.parse .ok m.tableFormat c.tableFormat format ∧
    r.tableFormat = format.getD c.catalogType.defaultTableFormat
  fileFormat : ∃ format, FirstSet FileFormat.parse .ok m.fileFormat c.fileFormat format ∧
    r.fileFormat = format.getD c.catalogType.defaultFileFormat
  externalVolume : r.externalVolume = m.externalVolume.or c.externalVolume

/-- The fields of a managed table.

- `changeTracking`, `policy`, `retention`, `extension`: the options of managed tables have no
  defaults.
- `location`: the parts of the base location are decided one by one.
- `nowhere`: without a schema and an identifier there is no base location, and the model says where
  the table is.
- `own`, `builtIn`, `prefixed`: the address is the model's own, or goes with the base location. -/
structure ManagedFields (c : IntegrationConfig) (m : Model) (r : StorageRelation) : Prop where
  changeTracking : FirstSet (trackingToken .resolution)
    (fun raw => trackingToken .invalidIntegrationConfig (.text raw))
    m.changeTracking (c.properties.get? "change_tracking") r.changeTracking
  policy : ∃ policy, FirstSet (SerializationPolicy.parse .resolution)
    (SerializationPolicy.parse .invalidIntegrationConfig)
    m.serializationPolicy (c.property? "storage_serialization_policy") policy ∧
    r.serializationPolicy = policy.map (·.token)
  retention : FirstSet (retentionDays .resolution "data_retention_time_in_days")
    (c.daysProperty "data_retention_time_in_days")
    m.dataRetentionDays (c.property? "data_retention_time_in_days") r.dataRetentionDays
  extension : FirstSet (retentionDays .resolution "max_data_extension_time_in_days")
    (c.daysProperty "max_data_extension_time_in_days")
    m.maxExtensionDays (c.property? "max_data_extension_time_in_days") r.maxExtensionDays
  location : ∀ schema identifier, m.schema = some schema → m.identifier = some identifier →
    r.baseLocation = some ("/".intercalate
      (effectiveRoot (m.baseLocationRoot.or (c.property? "base_location_root")) ::
        ([schema, identifier,
          (m.baseLocationSubpath.or (c.property? "base_location_subpath")).getD ""].map
            Text.trim).filter (· ≠ "")))
  nowhere : m.schema = none ∨ m.identifier = none →
    r.baseLocation = none ∧ ∃ uri, m.storageUri = some uri
  own : ∀ uri, m.storageUri = some uri → r.storageUri = some uri
  builtIn : m.storageUri = none → c.catalogType = .builtIn → r.storageUri = r.baseLocation
  prefixed : m.storageUri = none → c.catalogType = .biglakeMetastore →
    ∃ base, r.baseLocation = some base ∧
      r.storageUri = r.externalVolume.map fun volume => Text.dropSlashesRight volume ++ "/" ++ base

/-- The fields of a registered table.

- `own`, `nowhere`, `derived`: the address is the model's own, or a directory under the volume, or
  there is none.
- `externalSchema`: the integration declares the schema that tables are registered in. -/
structure GlueFields (c : IntegrationConfig) (m : Model) (r : StorageRelation) : Prop where
  own : ∀ uri, m.storageUri = some uri → r.storageUri = some uri
  nowhere : m.storageUri = none → r.externalVolume = none → r.storageUri = none
  derived : ∀ volume, m.storageUri = none → r.externalVolume = some volume →
    ∃ schema identifier, m.schema = some schema ∧ m.identifier = some identifier ∧
      r.storageUri =
        some (Text.dropSlashesRight volume ++ "/" ++ schema ++ "/" ++ identifier ++ "/")
  externalSchema : ∃ declared, c.property? "external_schema" = some declared ∧
    r.externalSchema = some (m.externalSchema.getD (Text.trim declared))
  glueDatabase : r.glueDatabase = c.property? "glue_database"
  partitionBy : r.partitionBy = m.partitionBy

/-- The fields that belong to one kind of storage are null for every other.

- `native`, `read`: a table in the warehouse's own storage is where the model says, and one that is
  only read is nowhere. -/
structure OtherFields (c : IntegrationConfig) (m : Model) (r : StorageRelation) : Prop where
  unmanaged : c.catalogType.behaviour ≠ .managedExternal →
    r.baseLocation = none ∧ r.changeTracking = none ∧ r.serializationPolicy = none ∧
      r.dataRetentionDays = none ∧ r.maxExtensionDays = none
  unregistered : c.catalogType.behaviour ≠ .externalWritable →
    r.externalSchema = none ∧ r.glueDatabase = none ∧ r.partitionBy = none
  catalogNamespace : r.catalogNamespace =
    if c.catalogType.behaviour = .externalReadOnly then
      (c.property? "namespace").or (c.property? "catalog_namespace")
    else none
  native : c.catalogType.behaviour = .internal → r.storageUri = m.storageUri
  read : c.catalogType.behaviour = .externalReadOnly →
    r.tableFormat = .iceberg ∧ r.storageUri = none

/-- Every field of a relation comes from the first level that sets it. -/
structure FieldByField (c : IntegrationConfig) (m : Model) (r : StorageRelation) : Prop where
  common : CommonFields c m r
  managed : c.catalogType.behaviour = .managedExternal → ManagedFields c m r
  glue : c.catalogType.behaviour = .externalWritable → GlueFields c m r
  other : OtherFields c m r

variable {c : IntegrationConfig} {i : Integration} {m : Model} {r : StorageRelation}

/-! ## Options and overrides -/

section Overrides

variable {α β γ : Type} {own : α → Answer γ} {declared : β → Answer γ} {a : Option α}
  {b : Option β} {given result : Option γ}

/-- An override comes before an option, which is understood when the integration is built. -/
theorem firstSet_of_override (h : i.override m own a given = .ok result)
    (hgiven : optional declared b = .ok given) : FirstSet own declared a b result := by
  cases a with
  | some a =>
    simp only [override, explain] at h
    split at h
    · next hmap =>
      obtain ⟨value, hvalue, rfl⟩ := exists_of_map_ok hmap
      obtain rfl := Except.ok.inj h
      exact .own hvalue
    · cases h
  | none =>
    obtain rfl := Except.ok.inj h
    cases b with
    | none =>
      obtain rfl := Except.ok.inj hgiven
      exact .unset
    | some b =>
      obtain ⟨value, hvalue, rfl⟩ := exists_of_map_ok hgiven
      exact .declared hvalue

/-- An override comes before an option that needs no understanding. -/
theorem firstSet_of_override_typed {given : Option γ} (h : i.override m own a given = .ok result) :
    FirstSet own .ok a given result :=
  firstSet_of_override h (by cases given <;> rfl)

end Overrides

theorem of_explain_ok {α : Type} {answer : Answer α} {a : α} (h : c.explain answer = .ok a) :
    answer = .ok a := by
  cases answer with
  | error f => cases h
  | ok a' => exact h

/-- The options of managed tables, each from its own property. -/
theorem eq_of_managedOptions {o : ManagedOptions} (h : ManagedOptions.ofConfig c = .ok o) :
    ∃ tracking policy retention extension,
      optional (fun raw => trackingToken .invalidIntegrationConfig (.text raw))
        (c.properties.get? "change_tracking") = .ok tracking ∧
      optional (SerializationPolicy.parse .invalidIntegrationConfig)
        (c.property? "storage_serialization_policy") = .ok policy ∧
      optional (c.daysProperty "data_retention_time_in_days")
        (c.property? "data_retention_time_in_days") = .ok retention ∧
      optional (c.daysProperty "max_data_extension_time_in_days")
        (c.property? "max_data_extension_time_in_days") = .ok extension ∧
      o = {
        baseLocationRoot := c.property? "base_location_root"
        baseLocationSubpath := c.property? "base_location_subpath"
        changeTracking := tracking
        serializationPolicy := policy
        dataRetentionDays := retention
        maxExtensionDays := extension } := by
  obtain ⟨tracking, htracking, h⟩ := exists_of_bind_ok h
  obtain ⟨policy, hpolicy, h⟩ := exists_of_bind_ok h
  obtain ⟨retention, hretention, h⟩ := exists_of_bind_ok h
  obtain ⟨extension, hextension, h⟩ := exists_of_bind_ok h
  obtain rfl := Except.ok.inj h
  exact ⟨tracking, policy, retention, extension, of_explain_ok htracking, of_explain_ok hpolicy,
    hretention, hextension, rfl⟩

theorem eq_of_glueOptions {o : GlueOptions} (h : GlueOptions.ofConfig c = .ok o) :
    ∃ declared, c.property? "external_schema" = some declared ∧
      o = ⟨Text.trim declared, c.property? "glue_database"⟩ := by
  unfold GlueOptions.ofConfig at h
  split at h
  · cases h
  · next declared hdeclared =>
    obtain rfl := Except.ok.inj h
    exact ⟨declared, hdeclared, rfl⟩

/-- Managed tables are addressed by their base location alone in one catalog type, and under their
volume in the other. -/
theorem managedLocation?_eq_some {t : CatalogType} {location : ManagedLocation}
    (h : managedLocation? t = some location) :
    t = .builtIn ∧ location = .namespaceLocal ∨
      t = .biglakeMetastore ∧ location = .volumePrefixed := by
  cases t <;> simp [managedLocation?, CatalogType.behaviour] at h ⊢ <;> exact h.symm

/-! ## The four strategies -/

theorem commonFields_of_common (h : i.common m = .ok r) : CommonFields i.config m r := by
  obtain ⟨tableFormat, fileFormat, htable, hfile, rfl⟩ := eq_of_common h
  exact ⟨rfl, rfl, ⟨tableFormat, firstSet_of_override_typed htable, rfl⟩,
    ⟨fileFormat, firstSet_of_override_typed hfile, rfl⟩, rfl⟩

theorem fieldByField_of_internal (hbehaviour : c.catalogType.behaviour = .internal)
    (h : (⟨c, .internal⟩ : Integration).resolve m = .ok r) : FieldByField c m r := by
  obtain ⟨common, hcommon, rfl⟩ := eq_of_resolveInternal h
  have hfields := commonFields_of_common hcommon
  obtain ⟨tableFormat, fileFormat, -, -, rfl⟩ := eq_of_common hcommon
  refine ⟨{ hfields with }, ?_, ?_, ?_⟩
  · simp [hbehaviour]
  · simp [hbehaviour]
  · exact ⟨fun _ => ⟨rfl, rfl, rfl, rfl, rfl⟩, fun _ => ⟨rfl, rfl, rfl⟩, by simp [hbehaviour],
      fun _ => rfl, by simp [hbehaviour]⟩

theorem fieldByField_of_readOnly (hbehaviour : c.catalogType.behaviour = .externalReadOnly)
    (h : (⟨{ c with allowsWrites := false }, .readOnly (.ofConfig c)⟩ : Integration).resolve m =
      .ok r) : FieldByField c m r := by
  obtain ⟨common, hcommon, hformat, rfl⟩ := eq_of_resolveReadOnly h
  have hfields := commonFields_of_common hcommon
  obtain ⟨tableFormat, fileFormat, -, -, rfl⟩ := eq_of_common hcommon
  refine ⟨{ hfields with }, ?_, ?_, ?_⟩
  · simp [hbehaviour]
  · simp [hbehaviour]
  · exact ⟨fun _ => ⟨rfl, rfl, rfl, rfl, rfl⟩, fun _ => ⟨rfl, rfl, rfl⟩, (if_pos hbehaviour).symm,
      by simp [hbehaviour], fun _ => ⟨hformat, rfl⟩⟩

/-- Without a schema and an identifier there is no base location. -/
theorem managedBase?_eq_none {o : ManagedOptions} (h : m.schema = none ∨ m.identifier = none) :
    managedBase? o m = none := by
  unfold managedBase?
  split
  · next hschema hidentifier => simp [hschema, hidentifier] at h
  · rfl

/-- Where a managed table lies under its base location. -/
theorem managedFields_of_managed {location : ManagedLocation} {o : ManagedOptions}
    (hlocation : managedLocation? c.catalogType = some location)
    (ho : ManagedOptions.ofConfig c = .ok o)
    (h : (⟨c, .managed location o⟩ : Integration).resolve m = .ok r) : ManagedFields c m r := by
  obtain ⟨tracking, policy, retention, extension, htracking, hpolicy, hretention, hextension, rfl⟩ :=
    eq_of_managedOptions ho
  obtain ⟨common, uri, ownTracking, ownPolicy, ownRetention, ownExtension, -, huri, hownTracking,
    hownPolicy, hownRetention, hownExtension, rfl⟩ := eq_of_resolveManaged h
  refine
    { changeTracking := firstSet_of_override hownTracking htracking
      policy := ⟨ownPolicy, firstSet_of_override hownPolicy hpolicy, rfl⟩
      retention := firstSet_of_override hownRetention hretention
      extension := firstSet_of_override hownExtension hextension
      location := fun schema identifier hschema hidentifier => ?_
      nowhere := fun hnone =>
        ⟨managedBase?_eq_none hnone, huri.exists_own (managedBase?_eq_none hnone)⟩
      own := fun own hown => huri.eq_own hown
      builtIn := fun hnone htype => ?_
      prefixed := fun hnone htype => ?_ }
  · rw [← baseLocation_eq]
    simp only [managedBase?, hschema, hidentifier]
  · obtain ⟨base, hbase, rfl⟩ := huri.exists_base hnone
    obtain ⟨-, rfl⟩ | ⟨hother, -⟩ := managedLocation?_eq_some hlocation
    · exact hbase.symm
    · rw [htype] at hother
      cases hother
  · obtain ⟨base, hbase, rfl⟩ := huri.exists_base hnone
    obtain ⟨hother, -⟩ | ⟨-, rfl⟩ := managedLocation?_eq_some hlocation
    · rw [htype] at hother
      cases hother
    · exact ⟨base, hbase, rfl⟩

theorem fieldByField_of_managed {location : ManagedLocation} {o : ManagedOptions}
    (hbehaviour : c.catalogType.behaviour = .managedExternal)
    (hlocation : managedLocation? c.catalogType = some location)
    (ho : ManagedOptions.ofConfig c = .ok o)
    (h : (⟨c, .managed location o⟩ : Integration).resolve m = .ok r) : FieldByField c m r := by
  have hmanaged := managedFields_of_managed hlocation ho h
  obtain ⟨common, uri, tracking, policy, retention, extension, hcommon, -, -, -, -, -, rfl⟩ :=
    eq_of_resolveManaged h
  have hfields := commonFields_of_common hcommon
  obtain ⟨tableFormat, fileFormat, -, -, rfl⟩ := eq_of_common hcommon
  refine ⟨{ hfields with }, fun _ => hmanaged, ?_, ?_⟩
  · simp [hbehaviour]
  · exact ⟨by simp [hbehaviour], fun _ => ⟨rfl, rfl, rfl⟩, by simp [hbehaviour],
      by simp [hbehaviour], by simp [hbehaviour]⟩

theorem glueFields_of_glue {o : GlueOptions} (ho : GlueOptions.ofConfig c = .ok o)
    (h : (⟨c, .glue o⟩ : Integration).resolve m = .ok r) : GlueFields c m r := by
  obtain ⟨declared, hdeclared, rfl⟩ := eq_of_glueOptions ho
  obtain ⟨common, uri, -, huri, rfl⟩ := eq_of_resolveGlue h
  exact ⟨fun own hown => huri.eq_own hown, fun hnone hnowhere => huri.eq_none hnone hnowhere,
    fun volume hnone hvolume => huri.exists_under hnone hvolume, ⟨declared, hdeclared, rfl⟩, rfl,
    rfl⟩

theorem fieldByField_of_glue {o : GlueOptions}
    (hbehaviour : c.catalogType.behaviour = .externalWritable)
    (ho : GlueOptions.ofConfig c = .ok o)
    (h : (⟨c, .glue o⟩ : Integration).resolve m = .ok r) : FieldByField c m r := by
  have hglue := glueFields_of_glue ho h
  obtain ⟨common, uri, hcommon, -, rfl⟩ := eq_of_resolveGlue h
  have hfields := commonFields_of_common hcommon
  obtain ⟨tableFormat, fileFormat, -, -, rfl⟩ := eq_of_common hcommon
  refine ⟨{ hfields with }, ?_, fun _ => hglue, ?_⟩
  · simp [hbehaviour]
  · exact ⟨fun _ => ⟨rfl, rfl, rfl, rfl, rfl⟩, by simp [hbehaviour], by simp [hbehaviour],
      by simp [hbehaviour], by simp [hbehaviour]⟩

theorem fieldByField_of_madeFrom (hmade : MadeFrom c i) (h : i.resolve m = .ok r) :
    FieldByField c m r := by
  cases hmade with
  | internal hbehaviour => exact fieldByField_of_internal hbehaviour h
  | managed hbehaviour _ hlocation ho => exact fieldByField_of_managed hbehaviour hlocation ho h
  | glue hbehaviour _ ho => exact fieldByField_of_glue hbehaviour ho h
  | readOnly hbehaviour => exact fieldByField_of_readOnly hbehaviour h

end Integration

/-! ## Precedence -/

open Integration

variable {b : Backend} {c : IntegrationConfig} {i : Integration} {m : Model} {r : StorageRelation}

/-- Each field of a resolved relation comes from the first level that sets it. -/
theorem precedence_is_field_by_field (hbuilt : onBackend b c = .ok i) (h : i.resolve m = .ok r) :
    FieldByField c m r :=
  fieldByField_of_madeFrom (madeFrom_of_onBackend hbuilt) h

/-- An integration that declares a volume, a root with blanks around it and some of the options. -/
def bucketConfig : IntegrationConfig :=
  { IntegrationConfig.plain "lake" .biglakeMetastore with
    externalVolume := some "gs://declared"
    properties := .ofList [("base_location_root", " warehouse "), ("change_tracking", "true"),
      ("data_retention_time_in_days", "7")] }

/-- A model that overrides the volume and the flag, and sets what the integration leaves open. -/
def bucketModel : Model where
  schema := some "s"
  identifier := some "t"
  externalVolume := some "gs://own//"
  baseLocationSubpath := some "part"
  changeTracking := some (.bool false)
  maxExtensionDays := some 3

theorem precedence_is_field_by_field_bucket :
    ∃ i r, onBackend .bigquery bucketConfig = .ok i ∧ i.resolve bucketModel = .ok r ∧
      FieldByField bucketConfig bucketModel r ∧
      r.storageUri = some "gs://own/warehouse/s/t/part" ∧ r.changeTracking = some "FALSE" ∧
      r.dataRetentionDays = some 7 ∧ r.maxExtensionDays = some 3 := by
  obtain ⟨i, hbuilt, r, hresolved, hfields⟩ : ∃ i, onBackend .bigquery bucketConfig = .ok i ∧
      ∃ r, i.resolve bucketModel = .ok r ∧ r.storageUri = some "gs://own/warehouse/s/t/part" ∧
        r.changeTracking = some "FALSE" ∧ r.dataRetentionDays = some 7 ∧
        r.maxExtensionDays = some 3 :=
    ⟨_, rfl, _, rfl, rfl, rfl, rfl, rfl⟩
  exact ⟨i, r, hbuilt, hresolved, precedence_is_field_by_field hbuilt hresolved, hfields⟩

/-- The parts of a base location as they are written, but for those that are blank. -/
def writtenLocation (c : IntegrationConfig) (m : Model) : String :=
  let root := (m.baseLocationRoot.or (c.property? "base_location_root")).getD "_dbt"
  let subpath := m.baseLocationSubpath.or (c.property? "base_location_subpath")
  "/".intercalate ([root, m.schema.getD "", m.identifier.getD "", subpath.getD ""].filter fun part =>
    !Text.isBlankText part)

/-- A base location is not always what is written: its parts lose the blanks around them, a blank
root counts as none, and a model without an identifier has no base location. -/
theorem locations_are_not_verbatim :
    ∃ i, onBackend .bigquery bucketConfig = .ok i ∧
      (∃ r, i.resolve { schema := some "s", identifier := some "t" } = .ok r ∧
        r.baseLocation = some "warehouse/s/t" ∧
        writtenLocation bucketConfig { schema := some "s", identifier := some "t" } =
          " warehouse /s/t") ∧
      (∃ r, i.resolve { schema := some "s", identifier := some "t", baseLocationRoot := some " " } =
          .ok r ∧ r.baseLocation = some "_dbt/s/t" ∧
        writtenLocation bucketConfig
          { schema := some "s", identifier := some "t", baseLocationRoot := some " " } = "s/t") ∧
      ∃ r, i.resolve { schema := some "s", storageUri := some "gs://own" } = .ok r ∧
        r.baseLocation = none ∧
        writtenLocation bucketConfig { schema := some "s", storageUri := some "gs://own" } =
          " warehouse /s" :=
  ⟨_, rfl, ⟨_, rfl, rfl, rfl⟩, ⟨_, rfl, rfl, rfl⟩, _, rfl, rfl, rfl⟩

end Lakehouse
