import Lakehouse.Proofs.Integration.Precedence
import Lakehouse.Proofs.Integration.Validity

/-!
# Models that can be resolved

Which models an integration resolves, said without the functions that resolve them: how the overrides
are spelled, and where a location cannot be found without a schema and an identifier.

- `TableFormat.parse_eq_ok_iff`, `FileFormat.parse_eq_ok_iff`: the words that are read as formats.
- `Integration.Resolvable`: the models that an integration can resolve. Each strategy is checked by one
  lemma, and all together by `checks_resolve`.
- `Model.withUnused`: another model in all that an integration does not look at; `resolve_withUnused`
  says that the two are resolved alike.
- `StorageRelation.WithinLimits`: what the options of a managed table can be
  (`withinLimits_of_resolve`).
-/

namespace Lakehouse

variable {α β : Type} {kind : FailureKind} {p q : Prop}

/-! ## Words -/

/-- A word is read from the texts that spell it, where no two words are spelled alike. -/
theorem readToken?_eq_some_iff {token : α → String} {words : List α} (hmem : ∀ word, word ∈ words)
    (htoken : ∀ word, Text.foldAscii (token word) = token word) (hinj : Function.Injective token)
    {raw : String} {word : α} :
    readToken? token words (Text.trim raw) = some word ↔ SpelledAs raw (token word) := by
  have hsame : ∀ other, Text.sameToken (Text.trim raw) (token other) = true ↔
      SpelledAs raw (token other) := fun other => sameToken_trim_iff (htoken other)
  have hread : ∀ {other}, readToken? token words (Text.trim raw) = some other →
      SpelledAs raw (token other) := fun h =>
    (hsame _).1 (List.find?_some (p := fun w => Text.sameToken (Text.trim raw) (token w)) h)
  refine ⟨hread, fun h => ?_⟩
  obtain ⟨other, hother⟩ : ∃ other, readToken? token words (Text.trim raw) = some other :=
    Option.isSome_iff_exists.1 (List.find?_isSome.2 ⟨word, hmem word, (hsame word).2 h⟩)
  rw [hother, hinj ((hread hother).symm.trans h)]

theorem TableFormat.parse_eq_ok_iff {raw : String} {format : TableFormat} :
    TableFormat.parse raw = .ok format ↔ SpelledAs raw format.token := by
  have hmem : ∀ format, format ∈ all := by rintro (_ | _) <;> decide
  have htoken : ∀ format, Text.foldAscii (token format) = token format := by
    rintro (_ | _) <;> decide
  have hinj : Function.Injective token := by rintro (_ | _) (_ | _) <;> decide
  rw [← readToken?_eq_some_iff hmem htoken hinj]
  unfold TableFormat.parse
  cases readToken? token all (Text.trim raw) <;> simp

theorem FileFormat.parse_eq_ok_iff {raw : String} {format : FileFormat} :
    FileFormat.parse raw = .ok format ↔ SpelledAs raw format.token := by
  have hmem : ∀ format, format ∈ all := by rintro (_ | _ | _) <;> decide
  have htoken : ∀ format, Text.foldAscii (token format) = token format := by
    rintro (_ | _ | _) <;> decide
  have hinj : Function.Injective token := by rintro (_ | _ | _) (_ | _ | _) <;> decide
  rw [← readToken?_eq_some_iff hmem htoken hinj]
  unfold FileFormat.parse
  cases readToken? token all (Text.trim raw) <;> simp

theorem TableFormat.exists_parse_iff (raw : String) :
    (∃ format, TableFormat.parse raw = .ok format) ↔
      SpelledAs raw "default" ∨ SpelledAs raw "iceberg" := by
  simp only [TableFormat.parse_eq_ok_iff]
  constructor
  · rintro ⟨format, h⟩
    cases format with
    | default => exact .inl h
    | iceberg => exact .inr h
  · rintro (h | h)
    · exact ⟨.default, h⟩
    · exact ⟨.iceberg, h⟩

theorem FileFormat.exists_parse_iff (raw : String) :
    (∃ format, FileFormat.parse raw = .ok format) ↔
      SpelledAs raw "default" ∨ SpelledAs raw "parquet" ∨ SpelledAs raw "delta" := by
  simp only [FileFormat.parse_eq_ok_iff]
  constructor
  · rintro ⟨format, h⟩
    cases format with
    | default => exact .inl h
    | parquet => exact .inr (.inl h)
    | delta => exact .inr (.inr h)
  · rintro (h | h | h)
    · exact ⟨.default, h⟩
    · exact ⟨.parquet, h⟩
    · exact ⟨.delta, h⟩

/-- A truth value is a flag as it is, and a text if it spells one. -/
theorem exists_trackingToken_iff (kind : FailureKind) (flag : Flag) :
    (∃ token, trackingToken kind flag = .ok token) ↔
      ∀ raw, flag = .text raw → SpelledAs raw "true" ∨ SpelledAs raw "false" := by
  cases flag with
  | bool b => exact iff_of_true ⟨truthToken b, rfl⟩ (by simp)
  | text raw => simpa using (checks_trackingToken kind raw).exists_ok_iff

/-! ## Models -/

namespace Model

/-- The model has the schema and the identifier that a location is made of. -/
def Named (m : Model) : Prop :=
  (∃ schema, m.schema = some schema) ∧ ∃ identifier, m.identifier = some identifier

/-- The formats that a model asks for are known. -/
structure KnownFormats (m : Model) : Prop where
  tableFormat : ∀ raw, m.tableFormat = some raw →
    SpelledAs raw "default" ∨ SpelledAs raw "iceberg"
  fileFormat : ∀ raw, m.fileFormat = some raw →
    SpelledAs raw "default" ∨ SpelledAs raw "parquet" ∨ SpelledAs raw "delta"

/-- What a model overrides of the options of managed tables means something. A flag that is no text is
a truth value already. -/
structure ValidOverrides (m : Model) : Prop where
  changeTracking : ∀ raw, m.changeTracking = some (.text raw) →
    SpelledAs raw "true" ∨ SpelledAs raw "false"
  policy : ∀ raw, m.serializationPolicy = some raw →
    SpelledAs raw "compatible" ∨ SpelledAs raw "optimized"
  retention : ∀ days, m.dataRetentionDays = some days → 0 ≤ days ∧ days ≤ 90
  extension : ∀ days, m.maxExtensionDays = some days → 0 ≤ days ∧ days ≤ 90

/-- The table is an Iceberg table, where that is the default: the model says so, or it says nothing and
the integration does not say otherwise. -/
def AsksForIceberg (m : Model) (declared : Option TableFormat) : Prop :=
  (∀ raw, m.tableFormat = some raw → SpelledAs raw "iceberg") ∧
    (m.tableFormat = none → declared ≠ some .default)

/-- The model `m` in all that goes into a table of one kind of storage, and another one in all that does
not. -/
def withUnused (behaviour : CatalogBehaviour) (m other : Model) : Model :=
  match behaviour with
  | .internal =>
    { other with
      schema := m.schema
      identifier := m.identifier
      catalogName := m.catalogName
      tableFormat := m.tableFormat
      fileFormat := m.fileFormat
      externalVolume := m.externalVolume
      storageUri := m.storageUri }
  | .managedExternal =>
    { m with
      database := other.database
      partitionBy := other.partitionBy
      externalSchema := other.externalSchema }
  | .externalWritable =>
    { m with
      database := other.database
      baseLocationRoot := other.baseLocationRoot
      baseLocationSubpath := other.baseLocationSubpath
      changeTracking := other.changeTracking
      serializationPolicy := other.serializationPolicy
      dataRetentionDays := other.dataRetentionDays
      maxExtensionDays := other.maxExtensionDays }
  | .externalReadOnly =>
    { other with
      schema := m.schema
      identifier := m.identifier
      catalogName := m.catalogName
      tableFormat := m.tableFormat
      fileFormat := m.fileFormat
      externalVolume := m.externalVolume }

theorem catalogName_withUnused (behaviour : CatalogBehaviour) (m other : Model) :
    (m.withUnused behaviour other).catalogName = m.catalogName := by
  cases behaviour <;> rfl

end Model

namespace Integration

variable {c : IntegrationConfig} {i : Integration} {m : Model} {r : StorageRelation}

/-- A model that an integration with a declaration can resolve.

- `located`: where a managed table lies is said by the model, or made of its schema and identifier.
- `registered`: so is where a registered table lies, if there is a volume.
- `overrides`, `read`: what else is asked of managed tables, and of tables that are only read. -/
structure Resolvable (c : IntegrationConfig) (m : Model) : Prop extends m.KnownFormats where
  located : c.catalogType = .builtIn ∨ c.catalogType = .biglakeMetastore →
    (∃ uri, m.storageUri = some uri) ∨ m.Named
  overrides : c.catalogType = .builtIn ∨ c.catalogType = .biglakeMetastore → m.ValidOverrides
  registered : c.catalogType = .glue →
    (∃ uri, m.storageUri = some uri) ∨ m.externalVolume.or c.externalVolume = none ∨ m.Named
  read : c.catalogType = .icebergRest ∨ c.catalogType = .awsGlue → m.AsksForIceberg c.tableFormat

/-! ## What each strategy checks -/

theorem checks_override {rule : α → Answer β} {p : α → Prop} (i : Integration) (m : Model)
    (hrule : ∀ a, (∃ b, rule a = .ok b) ↔ p a) (own : Option α) (given : Option β) :
    Checks .resolution (∀ a, own = some a → p a) (i.override m rule own given) := by
  cases own with
  | none => exact checks_ok (by simp) given
  | some a =>
    have hp : (∀ a', some a = some a' → p a') ↔ p a := by simp
    rw [hp, ← hrule a]
    simp only [override]
    cases rule a with
    | ok b => exact checks_ok ⟨b, rfl⟩ (some b)
    | error f => exact checks_error (by simp) rfl

theorem checks_common (i : Integration) (m : Model) :
    Checks .resolution m.KnownFormats (i.common m) := by
  have htable := checks_override i m TableFormat.exists_parse_iff m.tableFormat
    i.config.tableFormat
  have hfile := checks_override i m FileFormat.exists_parse_iff m.fileFormat
    i.config.fileFormat
  refine (htable.bind fun _ => hfile.bind fun _ => checks_ok trivial _).congr ?_
  exact ⟨fun h => ⟨h.1, h.2.1⟩, fun h => ⟨h.tableFormat, h.fileFormat, trivial⟩⟩

theorem exists_managedBase?_iff {o : ManagedOptions} :
    (∃ base, managedBase? o m = some base) ↔ m.Named := by
  unfold managedBase? Model.Named
  cases m.schema <;> cases m.identifier <;> simp

theorem checks_managedUri (i : Integration) (m : Model) (o : ManagedOptions)
    (address : String → Option String) :
    Checks .resolution ((∃ uri, m.storageUri = some uri) ∨ m.Named)
      (i.managedUri m (managedBase? o m) address) := by
  rw [← exists_managedBase?_iff (o := o)]
  unfold managedUri
  cases m.storageUri with
  | some uri => exact checks_ok (.inl ⟨uri, rfl⟩) _
  | none =>
    cases managedBase? o m with
    | some base => exact checks_ok (.inr ⟨base, rfl⟩) _
    | none => exact checks_error (by simp) rfl

theorem checks_resolveManaged (i : Integration) (location : ManagedLocation) (o : ManagedOptions)
    (m : Model) :
    Checks .resolution
      (m.KnownFormats ∧ ((∃ uri, m.storageUri = some uri) ∨ m.Named) ∧ m.ValidOverrides)
      (i.resolveManaged location o m) := by
  have htracking := checks_override i m (exists_trackingToken_iff .resolution) m.changeTracking
     o.changeTracking
  have hpolicy := checks_override i m (fun raw => (checks_policy .resolution raw).exists_ok_iff)
    m.serializationPolicy o.serializationPolicy
  -- both numbers of days are understood alike, under two names
  have hdays := fun key own given => checks_override i m
    (fun n => (checks_retentionDays .resolution key n).exists_ok_iff) own given
  rw [resolveManaged_eq]
  refine ((checks_common i m).bind fun common => (checks_managedUri i m o _).bind fun uri =>
    htracking.bind fun tracking => hpolicy.bind fun policy =>
    (hdays _ m.dataRetentionDays o.dataRetentionDays).bind fun retention =>
    (hdays _ m.maxExtensionDays o.maxExtensionDays).bind fun extension =>
    checks_ok trivial _).congr ?_
  constructor
  · rintro ⟨hformats, hlocated, htracking, hpolicy, hretention, hextension, -⟩
    exact ⟨hformats, hlocated, fun raw h => htracking _ h raw rfl, hpolicy, hretention, hextension⟩
  · rintro ⟨hformats, hlocated, hvalid⟩
    refine ⟨hformats, hlocated, fun flag h raw hraw => ?_, hvalid.policy, hvalid.retention,
      hvalid.extension, trivial⟩
    exact hvalid.changeTracking raw (hraw ▸ h)

theorem checks_registeredUri (i : Integration) (m : Model) (volume : Option String) :
    Checks .resolution ((∃ uri, m.storageUri = some uri) ∨ volume = none ∨ m.Named)
      (i.registeredUri m volume) := by
  unfold registeredUri Model.Named
  cases m.storageUri with
  | some uri => exact checks_ok (.inl ⟨uri, rfl⟩) _
  | none =>
    cases volume with
    | none => exact checks_ok (.inr (.inl rfl)) _
    | some volume =>
      cases m.schema with
      | none => exact checks_error (by simp) rfl
      | some schema =>
        cases m.identifier with
        | none => exact checks_error (by simp) rfl
        | some identifier => exact checks_ok (.inr (.inr ⟨⟨_, rfl⟩, _, rfl⟩)) _

theorem checks_resolveGlue (i : Integration) (o : GlueOptions) (m : Model) :
    Checks .resolution
      (m.KnownFormats ∧ ((∃ uri, m.storageUri = some uri) ∨
        m.externalVolume.or i.config.externalVolume = none ∨ m.Named))
      (i.resolveGlue o m) := by
  rw [resolveGlue_eq]
  refine (checks_common i m).bind_ok fun common hcommon => ?_
  rw [← (commonFields_of_common hcommon).externalVolume]
  exact ((checks_registeredUri i m _).bind fun uri => checks_ok trivial _).congr (and_iff_left trivial)

/-- An Iceberg table is asked for, where that is the default. -/
theorem tableFormat_eq_iceberg_iff (hdefault : i.config.catalogType.defaultTableFormat = .iceberg)
    (h : i.common m = .ok r) :
    r.tableFormat = .iceberg ↔ m.AsksForIceberg i.config.tableFormat := by
  obtain ⟨format, hfirst, hformat⟩ := (commonFields_of_common h).tableFormat
  rw [hformat, hdefault, Model.AsksForIceberg]
  cases hasked : m.tableFormat with
  | some raw =>
    rw [hasked] at hfirst
    cases hfirst with
    | @own _ _ value hread =>
      have hiceberg : TableFormat.parse raw = .ok .iceberg ↔ SpelledAs raw "iceberg" :=
        TableFormat.parse_eq_ok_iff
      rw [hread] at hiceberg
      simp [← hiceberg]
  | none =>
    rw [hasked] at hfirst
    generalize i.config.tableFormat = declared at hfirst
    cases hfirst with
    | @declared value _ hread =>
      obtain rfl := Except.ok.inj hread
      cases value <;> simp
    | unset => simp

theorem checks_resolveReadOnly (i : Integration) (o : ReadOnlyOptions) (m : Model)
    (hdefault : i.config.catalogType.defaultTableFormat = .iceberg) :
    Checks .resolution (m.KnownFormats ∧ m.AsksForIceberg i.config.tableFormat)
      (i.resolveReadOnly o m) := by
  unfold resolveReadOnly
  refine (checks_common i m).bind_ok fun common hcommon => ?_
  rw [← tableFormat_eq_iceberg_iff hdefault hcommon]
  split
  · next hformat => exact checks_ok hformat _
  · next hformat => exact checks_error hformat rfl

theorem checks_resolveInternal (i : Integration) (m : Model) :
    Checks .resolution m.KnownFormats (i.resolveInternal m) :=
  ((checks_common i m).bind fun _ => checks_ok trivial _).congr (and_iff_left trivial)

/-- An integration resolves exactly the models that it can resolve. -/
theorem checks_resolve (h : MadeFrom c i) (m : Model) :
    Checks .resolution (Resolvable i.config m) (i.resolve m) := by
  cases h with
  | internal hbehaviour =>
    refine (checks_resolveInternal _ m).congr ⟨fun hknown => ?_, fun h => h.toKnownFormats⟩
    cases htype : c.catalogType <;> rw [htype] at hbehaviour <;> cases hbehaviour
    exact { hknown with
      located := by simp [htype]
      overrides := by simp [htype]
      registered := by simp [htype]
      read := by simp [htype] }
  | @managed location o hbehaviour =>
    have htype := behaviour_eq_managedExternal_iff.1 hbehaviour
    refine (checks_resolveManaged _ location o m).congr ⟨?_, fun h =>
      ⟨h.toKnownFormats, h.located htype, h.overrides htype⟩⟩
    rintro ⟨hknown, hlocated, hvalid⟩
    exact { hknown with
      located := fun _ => hlocated
      overrides := fun _ => hvalid
      registered := by obtain h | h := htype <;> simp [h]
      read := by obtain h | h := htype <;> simp [h] }
  | @glue o hbehaviour =>
    have htype := behaviour_eq_externalWritable_iff.1 hbehaviour
    refine (checks_resolveGlue _ o m).congr ⟨?_, fun h => ⟨h.toKnownFormats, h.registered htype⟩⟩
    rintro ⟨hknown, hregistered⟩
    exact { hknown with
      located := by simp [htype]
      overrides := by simp [htype]
      registered := fun _ => hregistered
      read := by simp [htype] }
  | readOnly hbehaviour =>
    have htype := behaviour_eq_externalReadOnly_iff.1 hbehaviour
    have hdefault : c.catalogType.defaultTableFormat = .iceberg := by
      rw [CatalogType.defaultTableFormat, hbehaviour]
      rfl
    refine (checks_resolveReadOnly _ _ m hdefault).congr ⟨?_, fun h =>
      ⟨h.toKnownFormats, h.read htype⟩⟩
    rintro ⟨hknown, hread⟩
    exact { hknown with
      located := by obtain h | h := htype <;> simp [h]
      overrides := by obtain h | h := htype <;> simp [h]
      registered := by obtain h | h := htype <;> simp [h]
      read := fun _ => hread }

/-! ## What makes no difference -/

theorem failing_withUnused (i : Integration) (behaviour : CatalogBehaviour) (m other : Model) :
    i.failing (m.withUnused behaviour other) = i.failing m := by
  cases behaviour <;> exact failing_congr rfl rfl rfl

theorem common_withUnused (i : Integration) (behaviour : CatalogBehaviour) (m other : Model) :
    i.common (m.withUnused behaviour other) = i.common m := by
  cases behaviour <;> exact common_congr rfl rfl rfl rfl rfl rfl

/-- Whatever a model says of the options that tables of this kind do not have, it is resolved alike, to
the same relation or with the same failure. -/
theorem resolve_withUnused (h : MadeFrom c i) (m other : Model) :
    i.resolve (m.withUnused c.catalogType.behaviour other) = i.resolve m := by
  have hfailing := failing_withUnused i c.catalogType.behaviour m other
  have hcommon := common_withUnused i c.catalogType.behaviour m other
  cases h with
  | internal hbehaviour =>
    rw [hbehaviour] at hcommon ⊢
    simp only [resolve, resolveInternal, hcommon]
    rfl
  | managed hbehaviour =>
    rw [hbehaviour] at hfailing hcommon ⊢
    exact resolveManaged_congr _ hfailing hcommon rfl rfl (override_congr hfailing _ _ _)
      (override_congr hfailing _ _ _) (override_congr hfailing _ _ _) (override_congr hfailing _ _ _)
  | glue hbehaviour =>
    rw [hbehaviour] at hfailing hcommon ⊢
    simp only [resolve, resolveGlue_eq, hcommon, registeredUri_congr hfailing rfl rfl rfl]
    rfl
  | readOnly hbehaviour =>
    rw [hbehaviour] at hfailing hcommon ⊢
    simp only [resolve, resolveReadOnly, hcommon, hfailing]

end Integration

/-! ## What comes out -/

/-- The options of a managed table are within their limits, where they are set. -/
structure StorageRelation.WithinLimits (r : StorageRelation) : Prop where
  retention : ∀ days, r.dataRetentionDays = some days → days ≤ 90
  extension : ∀ days, r.maxExtensionDays = some days → days ≤ 90
  changeTracking : ∀ token, r.changeTracking = some token → token = "TRUE" ∨ token = "FALSE"
  policy : ∀ token, r.serializationPolicy = some token → token = "COMPATIBLE" ∨ token = "OPTIMIZED"

/-- What both rules say of every value that they understand is said of the value that comes first. -/
theorem FirstSet.of_rules {γ : Type} {own : α → Answer γ} {declared : β → Answer γ} {a : Option α}
    {b : Option β} {result : Option γ} {P : γ → Prop} (h : FirstSet own declared a b result)
    (hown : ∀ a v, own a = .ok v → P v) (hdeclared : ∀ b v, declared b = .ok v → P v) :
    ∀ v, result = some v → P v := by
  rintro v rfl
  cases h with
  | own hread => exact hown _ v hread
  | declared hread => exact hdeclared _ v hread

theorem trackingToken_eq {flag : Flag} {token : String} (h : trackingToken kind flag = .ok token) :
    token = "TRUE" ∨ token = "FALSE" := by
  have htruth : ∀ b, truthToken b = "TRUE" ∨ truthToken b = "FALSE" := by decide
  cases flag with
  | bool b => exact Except.ok.inj h ▸ htruth b
  | text raw =>
    rw [trackingToken] at h
    split at h
    · exact Except.ok.inj h ▸ htruth true
    · split at h
      · exact Except.ok.inj h ▸ htruth false
      · cases h

theorem retentionDays_le {key : String} {n : Int} {days : Nat}
    (h : retentionDays kind key n = .ok days) : days ≤ 90 := by
  unfold retentionDays at h
  split at h
  · next hwithin =>
    obtain rfl := Except.ok.inj h
    have hmost : n ≤ 90 := hwithin.2
    omega
  · cases h

theorem daysProperty_le {c : IntegrationConfig} {key raw : String} {days : Nat}
    (h : c.daysProperty key raw = .ok days) : days ≤ 90 := by
  unfold IntegrationConfig.daysProperty at h
  split at h
  · cases h
  · exact retentionDays_le (Integration.of_explain_ok h)

namespace Integration

variable {c : IntegrationConfig} {i : Integration} {m : Model} {r : StorageRelation}

theorem ManagedFields.withinLimits (h : ManagedFields c m r) : r.WithinLimits where
  retention := h.retention.of_rules (fun _ _ => retentionDays_le) fun _ _ => daysProperty_le
  extension := h.extension.of_rules (fun _ _ => retentionDays_le) fun _ _ => daysProperty_le
  changeTracking := h.changeTracking.of_rules (fun _ _ => trackingToken_eq) fun _ _ => trackingToken_eq
  policy := by
    intro token htoken
    obtain ⟨policy, -, hpolicy⟩ := h.policy
    rw [hpolicy] at htoken
    obtain ⟨p, -, rfl⟩ := Option.map_eq_some_iff.1 htoken
    cases p with
    | compatible => exact .inl rfl
    | optimized => exact .inr rfl

/-- Tables that are not managed have none of these options. -/
theorem OtherFields.withinLimits (h : OtherFields c m r)
    (hbehaviour : c.catalogType.behaviour ≠ .managedExternal) : r.WithinLimits := by
  obtain ⟨-, htracking, hpolicy, hretention, hextension⟩ := h.unmanaged hbehaviour
  constructor
  · simp [hretention]
  · simp [hextension]
  · simp [htracking]
  · simp [hpolicy]

theorem withinLimits_of_resolve (h : MadeFrom c i) (hr : i.resolve m = .ok r) : r.WithinLimits := by
  have hfields := fieldByField_of_madeFrom h hr
  by_cases hbehaviour : c.catalogType.behaviour = .managedExternal
  · exact (hfields.managed hbehaviour).withinLimits
  · exact hfields.other.withinLimits hbehaviour

end Integration

end Lakehouse
