import Lakehouse.Integration.Resolve
import Lakehouse.Proofs.Answer

/-!
# What building and resolving come to

An integration is built in four ways and resolves a model in four ways. Each of them is opened here
once, so that what is said about integrations is read off from these statements.

- `Integration.MadeFrom`: what an integration on a backend is made of (`madeFrom_of_onBackend`): its
  declaration, and the options that go with the catalog type.
- `eq_of_common`, `eq_of_resolveInternal`, `eq_of_resolveManaged`, `eq_of_resolveGlue`,
  `eq_of_resolveReadOnly`: a resolved relation, field by field. `Integration.Located` says where a
  managed table lies, and `Integration.Registered` where a registered one does.
- `refuses_resolve`: a model that cannot be resolved is refused, whatever the integration: the failure
  is one of resolution and names both (`failsToResolve_resolve` says the first of these alone).
- `common_congr`, `resolveManaged_congr` and their like: what resolving looks at.
-/

namespace Lakehouse

theorem behaviour_eq_managedExternal_iff {t : CatalogType} :
    t.behaviour = .managedExternal ↔ t = .builtIn ∨ t = .biglakeMetastore := by
  cases t <;> decide

theorem behaviour_eq_externalWritable_iff {t : CatalogType} :
    t.behaviour = .externalWritable ↔ t = .glue := by
  cases t <;> decide

namespace Integration

variable {b : Backend} {c : IntegrationConfig} {i : Integration} {m : Model}
  {relation : StorageRelation}

/-! ## Building -/

/-- What an integration is made of. Only where tables are read and not written may the declaration
forbid writing. -/
inductive MadeFrom (c : IntegrationConfig) : Integration → Prop
  | internal (hbehaviour : c.catalogType.behaviour = .internal) (hwrites : c.allowsWrites = true) :
      MadeFrom c ⟨c, .internal⟩
  | managed {location : ManagedLocation} {o : ManagedOptions}
      (hbehaviour : c.catalogType.behaviour = .managedExternal) (hwrites : c.allowsWrites = true)
      (hlocation : managedLocation? c.catalogType = some location)
      (hoptions : ManagedOptions.ofConfig c = .ok o) : MadeFrom c ⟨c, .managed location o⟩
  | glue {o : GlueOptions} (hbehaviour : c.catalogType.behaviour = .externalWritable)
      (hwrites : c.allowsWrites = true) (hoptions : GlueOptions.ofConfig c = .ok o) :
      MadeFrom c ⟨c, .glue o⟩
  | readOnly (hbehaviour : c.catalogType.behaviour = .externalReadOnly) :
      MadeFrom c ⟨{ c with allowsWrites := false }, .readOnly (ReadOnlyOptions.ofConfig c)⟩

theorem MadeFrom.catalogType_eq (h : MadeFrom c i) : i.config.catalogType = c.catalogType := by
  cases h <;> rfl

/-- An integration for managed tables has their options. -/
theorem MadeFrom.exists_managed (h : MadeFrom c i)
    (hmanaged : c.catalogType.behaviour = .managedExternal) :
    ∃ location o, managedLocation? c.catalogType = some location ∧
      ManagedOptions.ofConfig c = .ok o ∧ c.allowsWrites = true ∧ i = ⟨c, .managed location o⟩ := by
  cases h with
  | managed _ hwrites hlocation ho => exact ⟨_, _, hlocation, ho, hwrites, rfl⟩
  | internal hother | glue hother | readOnly hother =>
    rw [hmanaged] at hother
    cases hother

theorem eq_of_internal (h : internal c = .ok i) : i = ⟨c, .internal⟩ := by
  unfold internal at h
  split at h
  · exact (Except.ok.inj h).symm
  · cases h

theorem eq_of_managed (h : managed c = .ok i) :
    ∃ location o, managedLocation? c.catalogType = some location ∧
      ManagedOptions.ofConfig c = .ok o ∧ i = ⟨c, .managed location o⟩ := by
  unfold managed at h
  split at h
  · cases h
  · next location hlocation =>
    obtain ⟨o, ho, rfl⟩ := exists_of_map_ok h
    exact ⟨location, o, hlocation, ho, rfl⟩

theorem eq_of_glue (h : glue c = .ok i) :
    ∃ o, GlueOptions.ofConfig c = .ok o ∧ i = ⟨c, .glue o⟩ := by
  unfold glue at h
  split at h
  · obtain ⟨o, ho, rfl⟩ := exists_of_map_ok h
    exact ⟨o, ho, rfl⟩
  · cases h

theorem eq_of_readOnly (h : readOnly c = .ok i) :
    i = ⟨{ c with allowsWrites := false }, .readOnly (ReadOnlyOptions.ofConfig c)⟩ := by
  unfold readOnly at h
  split at h
  · split at h
    · cases h
    · exact (Except.ok.inj h).symm
  · cases h

/-- An integration on a backend is made from its declaration. -/
theorem madeFrom_of_onBackend (h : onBackend b c = .ok i) : MadeFrom c i := by
  unfold onBackend at h
  split at h
  · cases h
  · dsimp only at h
    split at h
    · cases h
    · next hwrites =>
      have hallows : c.catalogType.behaviour ≠ .externalReadOnly → c.allowsWrites = true := by
        intro hne
        simpa [hne] using hwrites
      cases hbehaviour : c.catalogType.behaviour with
      | internal =>
        rw [hbehaviour] at h hallows
        rw [eq_of_internal h]
        exact .internal hbehaviour (hallows (by decide))
      | managedExternal =>
        rw [hbehaviour] at h hallows
        obtain ⟨location, o, hlocation, ho, rfl⟩ := eq_of_managed h
        exact .managed hbehaviour (hallows (by decide)) hlocation ho
      | externalWritable =>
        rw [hbehaviour] at h hallows
        obtain ⟨o, ho, rfl⟩ := eq_of_glue h
        exact .glue hbehaviour (hallows (by decide)) ho
      | externalReadOnly =>
        rw [hbehaviour] at h
        rw [eq_of_readOnly h]
        exact .readOnly hbehaviour

/-! ## Resolving -/

/-- What every strategy resolves alike; nothing else is set. -/
theorem eq_of_common (h : i.common m = .ok relation) :
    ∃ tableFormat fileFormat,
      i.override m TableFormat.parse m.tableFormat i.config.tableFormat = .ok tableFormat ∧
      i.override m FileFormat.parse m.fileFormat i.config.fileFormat = .ok fileFormat ∧
      relation = {
        catalogName := i.config.name
        catalogType := i.config.catalogType
        tableFormat := tableFormat.getD i.config.catalogType.defaultTableFormat
        fileFormat := fileFormat.getD i.config.catalogType.defaultFileFormat
        externalVolume := m.externalVolume.or i.config.externalVolume
        allowsWrites := i.config.allowsWrites } := by
  obtain ⟨tableFormat, htable, h⟩ := exists_of_bind_ok h
  obtain ⟨fileFormat, hfile, h⟩ := exists_of_bind_ok h
  obtain rfl := Except.ok.inj h
  exact ⟨tableFormat, fileFormat, htable, hfile, rfl⟩

theorem eq_of_resolveInternal (h : i.resolveInternal m = .ok relation) :
    ∃ common, i.common m = .ok common ∧ relation = { common with storageUri := m.storageUri } := by
  obtain ⟨common, hcommon, h⟩ := exists_of_bind_ok h
  obtain rfl := Except.ok.inj h
  exact ⟨common, hcommon, rfl⟩

/-- Where a managed table lies: at the model's own address, or at the one that goes with the base
location. -/
inductive Located (m : Model) (base? : Option String) (address : String → Option String) :
    Option String → Prop
  | own {uri : String} (huri : m.storageUri = some uri) : Located m base? address (some uri)
  | derived {base : String} (huri : m.storageUri = none) (hbase : base? = some base) :
      Located m base? address (address base)

section Located

variable {base? uri : Option String} {address : String → Option String}

theorem Located.eq_own {own : String} (h : Located m base? address uri)
    (hown : m.storageUri = some own) : uri = some own := by
  cases h with
  | own huri => exact huri.symm.trans hown
  | derived huri =>
    rw [hown] at huri
    cases huri

theorem Located.exists_base (h : Located m base? address uri) (hnone : m.storageUri = none) :
    ∃ base, base? = some base ∧ uri = address base := by
  cases h with
  | own huri =>
    rw [hnone] at huri
    cases huri
  | derived _ hbase => exact ⟨_, hbase, rfl⟩

/-- Without a base location a table is where the model says. -/
theorem Located.exists_own (h : Located m base? address uri) (hbase : base? = none) :
    ∃ own, m.storageUri = some own := by
  cases h with
  | own huri => exact ⟨_, huri⟩
  | derived _ hsome =>
    rw [hbase] at hsome
    cases hsome

end Located

/-- The address of a managed table. -/
def managedUri (i : Integration) (m : Model) (base? : Option String)
    (address : String → Option String) : Answer (Option String) :=
  match m.storageUri, base? with
  | some uri, _ => .ok (some uri)
  | none, none => .error (i.failing m "a managed base location needs both schema and identifier")
  | none, some base => .ok (address base)

theorem located_of_managedUri {base? : Option String} {address : String → Option String}
    {uri : Option String} (h : i.managedUri m base? address = .ok uri) :
    Located m base? address uri := by
  unfold managedUri at h
  split at h
  · next huri =>
    obtain rfl := Except.ok.inj h
    exact .own huri
  · cases h
  · next huri =>
    obtain rfl := Except.ok.inj h
    exact .derived huri rfl

/-- The address is found before the overrides are understood. -/
theorem resolveManaged_eq (i : Integration) (location : ManagedLocation) (o : ManagedOptions)
    (m : Model) :
    i.resolveManaged location o m = do
      let common ← i.common m
      let uri ← i.managedUri m (managedBase? o m) (managedAddress location common.externalVolume)
      let tracking ← i.override m (trackingToken .resolution) m.changeTracking o.changeTracking
      let policy ← i.override m (SerializationPolicy.parse .resolution) m.serializationPolicy
        o.serializationPolicy
      let retention ← i.override m (retentionDays .resolution "data_retention_time_in_days")
        m.dataRetentionDays o.dataRetentionDays
      let extension ← i.override m (retentionDays .resolution "max_data_extension_time_in_days")
        m.maxExtensionDays o.maxExtensionDays
      return { common with
        storageUri := uri
        baseLocation := managedBase? o m
        changeTracking := tracking
        serializationPolicy := policy.map (·.token)
        dataRetentionDays := retention
        maxExtensionDays := extension } := by
  unfold resolveManaged managedUri
  refine congrArg (i.common m >>= ·) (funext fun common => ?_)
  dsimp only
  cases m.storageUri <;> cases managedBase? o m <;> rfl

theorem eq_of_resolveManaged {location : ManagedLocation} {o : ManagedOptions}
    (h : i.resolveManaged location o m = .ok relation) :
    ∃ common uri tracking policy retention extension,
      i.common m = .ok common ∧
      Located m (managedBase? o m) (managedAddress location common.externalVolume) uri ∧
      i.override m (trackingToken .resolution) m.changeTracking o.changeTracking = .ok tracking ∧
      i.override m (SerializationPolicy.parse .resolution) m.serializationPolicy
        o.serializationPolicy = .ok policy ∧
      i.override m (retentionDays .resolution "data_retention_time_in_days") m.dataRetentionDays
        o.dataRetentionDays = .ok retention ∧
      i.override m (retentionDays .resolution "max_data_extension_time_in_days") m.maxExtensionDays
        o.maxExtensionDays = .ok extension ∧
      relation = { common with
        storageUri := uri
        baseLocation := managedBase? o m
        changeTracking := tracking
        serializationPolicy := policy.map (·.token)
        dataRetentionDays := retention
        maxExtensionDays := extension } := by
  rw [resolveManaged_eq] at h
  obtain ⟨common, hcommon, h⟩ := exists_of_bind_ok h
  obtain ⟨uri, huri, h⟩ := exists_of_bind_ok h
  obtain ⟨tracking, htracking, h⟩ := exists_of_bind_ok h
  obtain ⟨policy, hpolicy, h⟩ := exists_of_bind_ok h
  obtain ⟨retention, hretention, h⟩ := exists_of_bind_ok h
  obtain ⟨extension, hextension, h⟩ := exists_of_bind_ok h
  obtain rfl := Except.ok.inj h
  exact ⟨common, uri, tracking, policy, retention, extension, hcommon, located_of_managedUri huri,
    htracking, hpolicy, hretention, hextension, rfl⟩

/-- Where a registered table lies: at the model's own address, in a directory of its own under the
volume, or nowhere if there is no volume. -/
inductive Registered (m : Model) : Option String → Option String → Prop
  | own {volume : Option String} {uri : String} (huri : m.storageUri = some uri) :
      Registered m volume (some uri)
  | nowhere (huri : m.storageUri = none) : Registered m none none
  | under {volume schema identifier : String} (huri : m.storageUri = none)
      (hschema : m.schema = some schema) (hidentifier : m.identifier = some identifier) :
      Registered m (some volume)
        (some (Text.dropSlashesRight volume ++ "/" ++ schema ++ "/" ++ identifier ++ "/"))

section Registered

variable {volume uri : Option String}

theorem Registered.eq_own {own : String} (h : Registered m volume uri)
    (hown : m.storageUri = some own) : uri = some own := by
  cases h with
  | own huri => exact huri.symm.trans hown
  | nowhere huri | under huri =>
    rw [hown] at huri
    cases huri

theorem Registered.eq_none (h : Registered m volume uri) (hnone : m.storageUri = none)
    (hvolume : volume = none) : uri = none := by
  cases h with
  | own huri =>
    rw [hnone] at huri
    cases huri
  | nowhere => rfl
  | under => cases hvolume

theorem Registered.exists_under {directory : String} (h : Registered m volume uri)
    (hnone : m.storageUri = none) (hvolume : volume = some directory) :
    ∃ schema identifier, m.schema = some schema ∧ m.identifier = some identifier ∧
      uri = some (Text.dropSlashesRight directory ++ "/" ++ schema ++ "/" ++ identifier ++ "/") := by
  cases h with
  | own huri =>
    rw [hnone] at huri
    cases huri
  | nowhere => cases hvolume
  | under _ hschema hidentifier =>
    obtain rfl := Option.some.inj hvolume
    exact ⟨_, _, hschema, hidentifier, rfl⟩

end Registered

/-- The address of a registered table. -/
def registeredUri (i : Integration) (m : Model) (volume : Option String) :
    Answer (Option String) :=
  match m.storageUri, volume with
  | some uri, _ => .ok (some uri)
  | none, none => .ok none
  | none, some volume =>
    match m.schema, m.identifier with
    | some schema, some identifier =>
      .ok (some (Text.dropSlashesRight volume ++ "/" ++ schema ++ "/" ++ identifier ++ "/"))
    | _, _ =>
      .error (i.failing m
        "a storage location under external_volume needs both schema and identifier")

theorem registered_of_registeredUri {volume uri : Option String}
    (h : i.registeredUri m volume = .ok uri) : Registered m volume uri := by
  unfold registeredUri at h
  split at h
  · next huri =>
    obtain rfl := Except.ok.inj h
    exact .own huri
  · next huri =>
    obtain rfl := Except.ok.inj h
    exact .nowhere huri
  · next huri =>
    split at h
    · next hschema hidentifier =>
      obtain rfl := Except.ok.inj h
      exact .under huri hschema hidentifier
    · cases h

theorem resolveGlue_eq (i : Integration) (o : GlueOptions) (m : Model) :
    i.resolveGlue o m = do
      let common ← i.common m
      let uri ← i.registeredUri m common.externalVolume
      return { common with
        storageUri := uri
        externalSchema := some (m.externalSchema.getD o.externalSchema)
        glueDatabase := o.glueDatabase
        partitionBy := m.partitionBy } := by
  unfold resolveGlue registeredUri
  refine congrArg (i.common m >>= ·) (funext fun common => ?_)
  dsimp only
  cases m.storageUri <;> cases common.externalVolume <;> cases m.schema <;> cases m.identifier <;>
    rfl

theorem eq_of_resolveGlue {o : GlueOptions} (h : i.resolveGlue o m = .ok relation) :
    ∃ common uri, i.common m = .ok common ∧ Registered m common.externalVolume uri ∧
      relation = { common with
        storageUri := uri
        externalSchema := some (m.externalSchema.getD o.externalSchema)
        glueDatabase := o.glueDatabase
        partitionBy := m.partitionBy } := by
  rw [resolveGlue_eq] at h
  obtain ⟨common, hcommon, h⟩ := exists_of_bind_ok h
  obtain ⟨uri, huri, h⟩ := exists_of_bind_ok h
  obtain rfl := Except.ok.inj h
  exact ⟨common, uri, hcommon, registered_of_registeredUri huri, rfl⟩

theorem eq_of_resolveReadOnly {o : ReadOnlyOptions} (h : i.resolveReadOnly o m = .ok relation) :
    ∃ common, i.common m = .ok common ∧ common.tableFormat = .iceberg ∧
      relation = { common with catalogNamespace := o.catalogNamespace, allowsWrites := false } := by
  obtain ⟨common, hcommon, h⟩ := exists_of_bind_ok h
  split at h
  · next hformat =>
    obtain rfl := Except.ok.inj h
    exact ⟨common, hcommon, hformat, rfl⟩
  · cases h

/-- A relation has the name of the integration that it is resolved by. -/
theorem catalogName_of_resolve (h : i.resolve m = .ok relation) :
    relation.catalogName = i.name := by
  have hcommon : ∀ common, i.common m = .ok common → common.catalogName = i.name := by
    intro common h
    obtain ⟨tableFormat, fileFormat, -, -, rfl⟩ := eq_of_common h
    rfl
  unfold resolve at h
  split at h
  · obtain ⟨common, hfields, rfl⟩ := eq_of_resolveInternal h
    exact hcommon common hfields
  · obtain ⟨common, uri, tracking, policy, retention, extension, hfields, -, -, -, -, -, rfl⟩ :=
      eq_of_resolveManaged h
    exact hcommon common hfields
  · obtain ⟨common, uri, hfields, -, rfl⟩ := eq_of_resolveGlue h
    exact hcommon common hfields
  · obtain ⟨common, hfields, -, rfl⟩ := eq_of_resolveReadOnly h
    exact hcommon common hfields

/-! ## Failing -/

/-- If there is no answer, that is a failure of resolution. -/
def FailsToResolve {α : Type} (answer : Answer α) : Prop :=
  ∀ f, answer = .error f → f.kind = .resolution

theorem failsToResolve_ok {α : Type} (a : α) : FailsToResolve (.ok a) := by
  intro f h
  cases h

theorem FailsToResolve.bind {α β : Type} {answer : Answer α} {next : α → Answer β}
    (h : FailsToResolve answer) (hnext : ∀ a, FailsToResolve (next a)) :
    FailsToResolve (answer >>= next) :=
  of_bind_error h hnext

/-- If there is no answer, the failure names the model and the integration. -/
def Refuses {α : Type} (i : Integration) (m : Model) (answer : Answer α) : Prop :=
  ∀ f, answer = .error f → ∃ problem, f = i.failing m problem

theorem refuses_ok {α : Type} (a : α) : i.Refuses m (.ok a) := by
  intro f h
  cases h

theorem refuses_failing {α : Type} (i : Integration) (m : Model) (problem : String) :
    i.Refuses m (.error (i.failing m problem) : Answer α) := by
  intro f h
  exact ⟨problem, (Except.error.inj h).symm⟩

theorem Refuses.bind {α β : Type} {answer : Answer α} {next : α → Answer β}
    (h : i.Refuses m answer) (hnext : ∀ a, i.Refuses m (next a)) : i.Refuses m (answer >>= next) :=
  of_bind_error h hnext

theorem refuses_override {α β : Type} (i : Integration) (m : Model) (rule : α → Answer β)
    (own : Option α) (given : Option β) : i.Refuses m (i.override m rule own given) := by
  cases own with
  | none => exact refuses_ok given
  | some a =>
    simp only [override]
    cases rule a with
    | ok v => exact refuses_ok (some v)
    | error f => exact refuses_failing i m f.message

theorem refuses_common (i : Integration) (m : Model) : i.Refuses m (i.common m) :=
  (refuses_override i m _ _ _).bind fun _ =>
    (refuses_override i m _ _ _).bind fun _ => refuses_ok _

theorem refuses_managedUri (i : Integration) (m : Model) (base? : Option String)
    (address : String → Option String) : i.Refuses m (i.managedUri m base? address) := by
  unfold managedUri
  split
  · exact refuses_ok _
  · exact refuses_failing i m _
  · exact refuses_ok _

theorem refuses_registeredUri (i : Integration) (m : Model) (volume : Option String) :
    i.Refuses m (i.registeredUri m volume) := by
  unfold registeredUri
  split
  · exact refuses_ok _
  · exact refuses_ok _
  · split
    · exact refuses_ok _
    · exact refuses_failing i m _

/-- A model that cannot be resolved is refused, whatever the integration. -/
theorem refuses_resolve (i : Integration) (m : Model) : i.Refuses m (i.resolve m) := by
  have hcommon := refuses_common i m
  unfold resolve
  split
  · exact hcommon.bind fun common => refuses_ok _
  · rw [resolveManaged_eq]
    exact hcommon.bind fun common => (refuses_managedUri i m _ _).bind fun uri =>
      (refuses_override i m _ _ _).bind fun tracking =>
      (refuses_override i m _ _ _).bind fun policy =>
      (refuses_override i m _ _ _).bind fun retention =>
      (refuses_override i m _ _ _).bind fun extension => refuses_ok _
  · rw [resolveGlue_eq]
    exact hcommon.bind fun common => (refuses_registeredUri i m _).bind fun uri =>
      refuses_ok _
  · refine hcommon.bind fun common => ?_
    split
    · exact refuses_ok _
    · exact refuses_failing i m _

/-- A model that cannot be resolved is a failure of resolution. -/
theorem failsToResolve_resolve (i : Integration) (m : Model) : FailsToResolve (i.resolve m) := by
  intro f h
  obtain ⟨problem, rfl⟩ := refuses_resolve i m f h
  rfl

/-! ## What resolving looks at -/

section Congruence

variable {i' : Integration} {m' : Model}

/-- A failure names the integration, and the model by its schema and identifier. -/
theorem failing_congr (hname : i'.config.name = i.config.name) (hschema : m'.schema = m.schema)
    (hidentifier : m'.identifier = m.identifier) : i'.failing m' = i.failing m := by
  funext problem
  simp only [failing, Model.label, hname, hschema, hidentifier]

theorem override_congr {α β : Type} (hfailing : i'.failing m' = i.failing m) (rule : α → Answer β)
    (own : Option α) (given : Option β) :
    i'.override m' rule own given = i.override m rule own given := by
  cases own with
  | none => rfl
  | some a =>
    simp only [override]
    cases rule a with
    | ok v => rfl
    | error f => exact congrArg Except.error (congrFun hfailing f.message)

/-- What every strategy resolves alike looks at the formats and the volume, and not at the properties.
-/
theorem common_congr {properties : NameMap String} {volume : Option String}
    (hconfig : i'.config = { i.config with properties, externalVolume := volume })
    (hschema : m'.schema = m.schema) (hidentifier : m'.identifier = m.identifier)
    (htable : m'.tableFormat = m.tableFormat) (hfile : m'.fileFormat = m.fileFormat)
    (hvolume : m'.externalVolume.or volume = m.externalVolume.or i.config.externalVolume) :
    i'.common m' = i.common m := by
  have hfailing : i'.failing m' = i.failing m :=
    failing_congr (by rw [hconfig]) hschema hidentifier
  simp only [common, override_congr hfailing, hconfig, htable, hfile, hvolume]

/-- A base location is made of what is left of its root and its subpath without blanks. -/
theorem managedBase?_congr {o o' : ManagedOptions} (hschema : m'.schema = m.schema)
    (hidentifier : m'.identifier = m.identifier)
    (hroot : (m'.baseLocationRoot.or o'.baseLocationRoot).bind Text.trimmed? =
      (m.baseLocationRoot.or o.baseLocationRoot).bind Text.trimmed?)
    (hsubpath : (m'.baseLocationSubpath.or o'.baseLocationSubpath).bind Text.trimmed? =
      (m.baseLocationSubpath.or o.baseLocationSubpath).bind Text.trimmed?) :
    managedBase? o' m' = managedBase? o m := by
  simp only [managedBase?, baseLocation, pathParts, List.filterMap_cons, hschema, hidentifier, hroot,
    hsubpath]

theorem managedUri_congr (hfailing : i'.failing m' = i.failing m)
    (huri : m'.storageUri = m.storageUri) (base? : Option String)
    (address : String → Option String) :
    i'.managedUri m' base? address = i.managedUri m base? address := by
  simp only [managedUri, hfailing, huri]

theorem registeredUri_congr (hfailing : i'.failing m' = i.failing m)
    (huri : m'.storageUri = m.storageUri) (hschema : m'.schema = m.schema)
    (hidentifier : m'.identifier = m.identifier) (volume : Option String) :
    i'.registeredUri m' volume = i.registeredUri m volume := by
  simp only [registeredUri, hfailing, huri, hschema, hidentifier]

/-- A managed table depends on its base location and on what each option comes to, and not on who says
so. -/
theorem resolveManaged_congr {o o' : ManagedOptions} (location : ManagedLocation)
    (hfailing : i'.failing m' = i.failing m) (hcommon : i'.common m' = i.common m)
    (huri : m'.storageUri = m.storageUri) (hbase : managedBase? o' m' = managedBase? o m)
    (htracking :
      i'.override m' (trackingToken .resolution) m'.changeTracking o'.changeTracking =
        i.override m (trackingToken .resolution) m.changeTracking o.changeTracking)
    (hpolicy :
      i'.override m' (SerializationPolicy.parse .resolution) m'.serializationPolicy
          o'.serializationPolicy =
        i.override m (SerializationPolicy.parse .resolution) m.serializationPolicy
          o.serializationPolicy)
    (hretention :
      i'.override m' (retentionDays .resolution "data_retention_time_in_days") m'.dataRetentionDays
          o'.dataRetentionDays =
        i.override m (retentionDays .resolution "data_retention_time_in_days") m.dataRetentionDays
          o.dataRetentionDays)
    (hextension :
      i'.override m' (retentionDays .resolution "max_data_extension_time_in_days") m'.maxExtensionDays
          o'.maxExtensionDays =
        i.override m (retentionDays .resolution "max_data_extension_time_in_days") m.maxExtensionDays
          o.maxExtensionDays) :
    i'.resolveManaged location o' m' = i.resolveManaged location o m := by
  simp only [resolveManaged_eq, hcommon, hbase, managedUri_congr hfailing huri, htracking, hpolicy,
    hretention, hextension]

end Congruence

end Integration

end Lakehouse
