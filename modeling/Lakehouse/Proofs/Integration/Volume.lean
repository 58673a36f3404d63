import Lakehouse.Proofs.Declaration.Projected
import Lakehouse.Proofs.Integration.Levels

/-!
# Volumes at two levels

A volume is declared with an integration, for every model, or stated by one model. Where neither level
says anything else, the same text should lead to the same relation. It does unless there are blanks
around it: a declared volume is kept as it is written, and one that a model states is trimmed.

- `Integration.resolve_withVolume`: a volume as it is kept counts the same at both levels.
- `Integration.alike_resolve`: what a model is resolved to under another volume differs in nothing but
  the volume and the address, and it fails no more and no less.
- `BlanksApart`: the relations that the two levels lead to, and that they are the same
  exactly if the text is trimmed already or blank.
- **`declared_volumes_keep_their_blanks`**: this is what becomes of every volume but the word `none`.
- `blanks_of_a_declared_volume_count`: one bucket under two addresses.
-/

namespace Lakehouse

variable {b : Backend} {c : IntegrationConfig} {i : Integration} {v : TemplateValue} {m : Model}
  {d : IntegrationDeclaration} {text : String}

/-! ## Declaring a volume -/

/-- A declaration with another volume has the same config but for the volume. -/
theorem IntegrationDeclaration.toConfig_withVolume (d : IntegrationDeclaration)
    (volume : Option String) (name : String) (allowsWrites : Bool) :
    { d with externalVolume := volume }.toConfig name allowsWrites =
      (d.toConfig name allowsWrites).map fun c =>
        { c with externalVolume := volume.bind Text.unlessBlank } := by
  unfold toConfig
  cases CatalogType.parse d.catalogType with
  | error f => rfl
  | ok catalogType =>
    cases optional TableFormat.parse d.tableFormat with
    | error f => rfl
    | ok tableFormat =>
      cases optional FileFormat.parse d.fileFormat with
      | error f => rfl
      | ok fileFormat => cases propertyTexts d.properties.entries <;> rfl

namespace Integration

/-- The integration with another volume. -/
def withVolume (i : Integration) (volume : Option String) : Integration :=
  { i with config := { i.config with externalVolume := volume } }

variable {volume volume' : Option String}

theorem internal_withVolume :
    internal { c with externalVolume := volume } = (internal c).map (·.withVolume volume) := by
  unfold internal
  dsimp only
  split <;> rfl

theorem managed_withVolume :
    managed { c with externalVolume := volume } = (managed c).map (·.withVolume volume) := by
  have hoptions : ManagedOptions.ofConfig { c with externalVolume := volume } =
      ManagedOptions.ofConfig c := managedOptions_congr rfl rfl
  unfold managed
  dsimp only
  split
  · rfl
  · rw [hoptions]
    cases ManagedOptions.ofConfig c <;> rfl

theorem glue_withVolume :
    glue { c with externalVolume := volume } = (glue c).map (·.withVolume volume) := by
  have hoptions : GlueOptions.ofConfig { c with externalVolume := volume } =
      GlueOptions.ofConfig c := rfl
  unfold glue
  dsimp only
  split
  · rw [hoptions]
    cases GlueOptions.ofConfig c <;> rfl
  · rfl

theorem readOnly_withVolume :
    readOnly { c with externalVolume := volume } = (readOnly c).map (·.withVolume volume) := by
  unfold readOnly
  dsimp only
  split
  · split <;> rfl
  · rfl

/-- Whether an integration is built does not depend on its volume. -/
theorem onBackend_withVolume :
    onBackend b { c with externalVolume := volume } = (onBackend b c).map (·.withVolume volume) := by
  unfold onBackend
  dsimp only
  split
  · rfl
  split
  · rfl
  cases c.catalogType.behaviour with
  | internal => exact internal_withVolume
  | managedExternal => exact managed_withVolume
  | externalWritable => exact glue_withVolume
  | externalReadOnly => exact readOnly_withVolume

/-! ## Stating a volume -/

end Integration

namespace Model

/-- The model with another volume. -/
def withVolume (m : Model) (volume : Option String) : Model :=
  { m with externalVolume := volume }

/-- A model that states a volume besides is read as before, but for the volume, which is trimmed. -/
theorem ofTemplate_stating_volume (v : TemplateValue)
    (hnone : Text.sameToken (Text.trim text) "none" = false) :
    ofTemplate (v.stating "external_volume" (.text text)) =
      (ofTemplate v).map (·.withVolume (Text.trimmed? text)) := by
  have hread := (textOption_stating v "external_volume" text).trans (unlessUnset_trim hnone)
  simp (disch := decide) only [ofTemplate, textOption_stating_of_ne, renamedOption_stating_of_ne,
    flagOption_stating_of_ne, listOption_stating_of_ne, integerOption_stating_of_ne, hread, map_of_bind]
  rfl

end Model

namespace Integration

/-! ## Resolving under a volume -/

/-- The volume of an integration counts like that of a model, where only one of them has one. -/
theorem resolve_withVolume {volume : Option String} (hdeclared : i.config.externalVolume = none)
    (hstated : m.externalVolume = none) :
    (i.withVolume volume).resolve m = i.resolve (m.withVolume volume) := by
  have hfailing : (i.withVolume volume).failing m = i.failing (m.withVolume volume) :=
    failing_congr rfl rfl rfl
  have hcommon : (i.withVolume volume).common m = i.common (m.withVolume volume) :=
    common_congr rfl rfl rfl rfl rfl (by simp [hstated, hdeclared, Model.withVolume])
  have hstrategy : (i.withVolume volume).strategy = i.strategy := rfl
  unfold resolve
  rw [hstrategy]
  cases i.strategy with
  | internal =>
    simp only [resolveInternal, hcommon]
    rfl
  | managed location o =>
    exact resolveManaged_congr location hfailing hcommon rfl rfl (override_congr hfailing _ _ _)
      (override_congr hfailing _ _ _) (override_congr hfailing _ _ _) (override_congr hfailing _ _ _)
  | glue o =>
    simp only [resolveGlue_eq, hcommon, registeredUri_congr hfailing rfl rfl rfl]
    rfl
  | readOnly o =>
    simp only [resolveReadOnly, hcommon, hfailing]
    rfl

/-- The volume and the address apart, the relations are the same. -/
def SameButPlace (r r' : StorageRelation) : Prop :=
  ∃ volume uri, r' = { r with externalVolume := volume, storageUri := uri }

section Alike

variable {volume volume' : Option String}

theorem alike_override {α β : Type} (rule : α → Answer β) (own : Option α) (given : Option β) :
    Alike (· = ·) (i.override (m.withVolume volume) rule own given)
      (i.override (m.withVolume volume') rule own given) := by
  have hfailing : i.failing (m.withVolume volume') = i.failing (m.withVolume volume) :=
    failing_congr rfl rfl rfl
  rw [override_congr hfailing]
  exact alike_refl _

theorem alike_common :
    Alike (fun r r' => r.externalVolume = volume.or i.config.externalVolume ∧
        r' = { r with externalVolume := volume'.or i.config.externalVolume })
      (i.common (m.withVolume volume))
      (i.common (m.withVolume volume')) := by
  refine (alike_override _ _ _).bind ?_
  rintro tableFormat _ rfl
  refine (alike_override _ _ _).bind ?_
  rintro fileFormat _ rfl
  exact .ok ⟨rfl, rfl⟩

theorem alike_managedUri (base? : Option String) (address address' : String → Option String) :
    Alike (fun _ _ => True) (i.managedUri (m.withVolume volume) base? address)
      (i.managedUri (m.withVolume volume') base? address') := by
  simp only [managedUri, Model.withVolume]
  cases m.storageUri with
  | some uri => exact .ok trivial
  | none =>
    cases base? with
    | some base => exact .ok trivial
    | none => exact .error _

theorem alike_registeredUri {own own' : Option String} (hset : own.isSome = own'.isSome) :
    Alike (fun _ _ => True) (i.registeredUri (m.withVolume volume) own)
      (i.registeredUri (m.withVolume volume') own') := by
  simp only [registeredUri, Model.withVolume]
  cases m.storageUri with
  | some uri => exact .ok trivial
  | none =>
    cases own with
    | none =>
      obtain rfl : own' = none := by simpa using hset.symm
      exact .ok trivial
    | some directory =>
      obtain ⟨directory', rfl⟩ : ∃ directory', own' = some directory' :=
        Option.isSome_iff_exists.1 hset.symm
      dsimp only
      split
      · exact .ok trivial
      · exact .error _

/-- Under another volume, but not under none, a model is resolved to the same relation in another place,
or it fails in the same way. -/
theorem alike_resolve (hset : volume.isSome = volume'.isSome) :
    Alike SameButPlace (i.resolve (m.withVolume volume))
      (i.resolve (m.withVolume volume')) := by
  unfold resolve
  cases i.strategy with
  | internal =>
    refine alike_common.bind ?_
    rintro r _ ⟨-, rfl⟩
    exact .ok ⟨_, _, rfl⟩
  | managed location o =>
    have hbase : managedBase? o (m.withVolume volume') = managedBase? o (m.withVolume volume) :=
      managedBase?_congr rfl rfl rfl rfl
    dsimp only
    rw [resolveManaged_eq, resolveManaged_eq, hbase]
    refine alike_common.bind ?_
    rintro r _ ⟨-, rfl⟩
    refine (alike_managedUri _ _ _).bind fun uri uri' _ => ?_
    refine (alike_override _ _ _).bind ?_
    rintro tracking _ rfl
    refine (alike_override _ _ _).bind ?_
    rintro policy _ rfl
    refine (alike_override _ _ _).bind ?_
    rintro retention _ rfl
    refine (alike_override _ _ _).bind ?_
    rintro extension _ rfl
    exact .ok ⟨_, _, rfl⟩
  | glue o =>
    dsimp only
    rw [resolveGlue_eq, resolveGlue_eq]
    refine alike_common.bind ?_
    rintro r _ ⟨hvolume, rfl⟩
    have hboth : r.externalVolume.isSome = (volume'.or i.config.externalVolume).isSome := by
      rw [hvolume, Option.isSome_or, Option.isSome_or, hset]
    refine (alike_registeredUri hboth).bind fun uri uri' _ => ?_
    exact .ok ⟨_, _, rfl⟩
  | readOnly o =>
    refine alike_common.bind ?_
    rintro r _ ⟨-, rfl⟩
    dsimp only
    split
    · exact .ok ⟨_, _, rfl⟩
    · exact .error _

end Alike

/-! ## Where the relations are -/

section Places

variable {volume volume' : Option String} {r r' : StorageRelation}
  (h : FieldByField c (m.withVolume volume) r) (h' : FieldByField c (m.withVolume volume') r')

include h h'

/-- Where the address is the model's own, the volume does not count. -/
theorem storageUri_eq_of_own {uri : String} (huri : m.storageUri = some uri) :
    r.storageUri = r'.storageUri := by
  cases hbehaviour : c.catalogType.behaviour with
  | internal => exact (h.other.native hbehaviour).trans (h'.other.native hbehaviour).symm
  | managedExternal =>
    exact ((h.managed hbehaviour).own uri huri).trans ((h'.managed hbehaviour).own uri huri).symm
  | externalWritable =>
    exact ((h.glue hbehaviour).own uri huri).trans ((h'.glue hbehaviour).own uri huri).symm
  | externalReadOnly => exact (h.other.read hbehaviour).2.trans (h'.other.read hbehaviour).2.symm

/-- Where no address goes with the volume, the volume does not count. -/
theorem storageUri_eq_of_elsewhere (hsame : SameButPlace r r')
    (hbiglake : c.catalogType ≠ .biglakeMetastore) (hglue : c.catalogType ≠ .glue) :
    r.storageUri = r'.storageUri := by
  cases huri : m.storageUri with
  | some uri => exact storageUri_eq_of_own h h' huri
  | none =>
    cases hbehaviour : c.catalogType.behaviour with
    | internal => exact (h.other.native hbehaviour).trans (h'.other.native hbehaviour).symm
    | managedExternal =>
      have htype := (behaviour_eq_managedExternal_iff.1 hbehaviour).resolve_right hbiglake
      have hbase := (h.managed hbehaviour).builtIn huri htype
      have hbase' := (h'.managed hbehaviour).builtIn huri htype
      obtain ⟨own, uri, rfl⟩ := hsame
      exact hbase.trans hbase'.symm
    | externalWritable => exact absurd (behaviour_eq_externalWritable_iff.1 hbehaviour) hglue
    | externalReadOnly => exact (h.other.read hbehaviour).2.trans (h'.other.read hbehaviour).2.symm

/-- Where the address goes with the volume, the path below the volume is the same. -/
theorem exists_path_of_under (hsame : SameButPlace r r')
    (hset : r.externalVolume.isSome = r'.externalVolume.isSome) (hnone : m.storageUri = none)
    (htype : c.catalogType = .biglakeMetastore ∨ c.catalogType = .glue) :
    ∃ path, r.storageUri = r.externalVolume.map (Text.dropSlashesRight · ++ "/" ++ path) ∧
      r'.storageUri = r'.externalVolume.map (Text.dropSlashesRight · ++ "/" ++ path) := by
  rcases htype with htype | htype
  · have hbehaviour := behaviour_eq_managedExternal_iff.2 (.inr htype)
    obtain ⟨path, hpath, huri⟩ := (h.managed hbehaviour).prefixed hnone htype
    obtain ⟨path', hpath', huri'⟩ := (h'.managed hbehaviour).prefixed hnone htype
    have hbase : r.baseLocation = r'.baseLocation := by
      obtain ⟨own, uri, rfl⟩ := hsame
      rfl
    obtain rfl : path = path' := Option.some.inj (hpath.symm.trans (hbase.trans hpath'))
    exact ⟨path, huri, huri'⟩
  · have hglue := h.glue (behaviour_eq_externalWritable_iff.2 htype)
    have hglue' := h'.glue (behaviour_eq_externalWritable_iff.2 htype)
    cases hvolume : r.externalVolume with
    | none =>
      have hvolume' : r'.externalVolume = none := by
        rw [hvolume] at hset
        exact Option.isNone_iff_eq_none.1 (by simpa using hset.symm)
      exact ⟨"", hglue.nowhere hnone hvolume, by rw [hvolume', hglue'.nowhere hnone hvolume']; rfl⟩
    | some directory =>
      obtain ⟨directory', hvolume'⟩ : ∃ directory', r'.externalVolume = some directory' := by
        rw [hvolume] at hset
        exact Option.isSome_iff_exists.1 hset.symm
      obtain ⟨schema, identifier, hschema, hidentifier, huri⟩ := hglue.derived directory hnone hvolume
      obtain ⟨schema', identifier', hschema', hidentifier', huri'⟩ :=
        hglue'.derived directory' hnone hvolume'
      obtain rfl := Option.some.inj (hschema.symm.trans hschema')
      obtain rfl := Option.some.inj (hidentifier.symm.trans hidentifier')
      refine ⟨schema ++ "/" ++ identifier ++ "/", ?_, ?_⟩
      · simp [huri, String.append_assoc]
      · simp [huri', hvolume', String.append_assoc]

end Places

end Integration

/-! ## Both levels -/

open Integration

/-- A model that is read from a template, resolved by an integration as a project declares it. -/
def IntegrationDeclaration.resolvedOn (b : Backend) (d : IntegrationDeclaration) (name : String)
    (allowsWrites : Bool) (v : TemplateValue) : Answer StorageRelation := do
  let c ← d.toConfig name allowsWrites
  Integration.resolvedOn b c v

/-- A volume that is kept as it is written is one that is trimmed, if there is nothing to trim. -/
theorem Text.unlessBlank_eq_trimmed?_iff :
    Text.unlessBlank text = Text.trimmed? text ↔ Text.trim text = text ∨ Text.trim text = "" := by
  rw [Text.trimmed?_eq, Text.unlessBlank]
  by_cases hblank : Text.trim text = ""
  · simp [hblank, (Text.isBlankText_iff_trim text).2 hblank]
  · have hfilled : Text.isBlankText text = false := by
      simpa [← Text.isBlankText_iff_trim] using hblank
    simp [hblank, hfilled, eq_comm]

theorem Text.isSome_unlessBlank (text : String) :
    (Text.unlessBlank text).isSome = (Text.trimmed? text).isSome := by
  rw [Text.unlessBlank, Text.trimmed?]
  split <;> rfl

/-- What a volume comes to that is declared with an integration (`r`), and what it comes to when a model
states it (`r'`).

- `rest`: nothing but the volume and the address can differ.
- `declared`, `stated`: a declared volume keeps the blanks around it. Either way a blank one is none.
- `own`, `elsewhere`, `under`: the address differs by these blanks if it goes with the volume, and else it
  does not differ. The slashes at the end of a volume are left out only if no blanks follow them.
- `eq_iff`: the same relation comes out exactly if the text is trimmed already or blank. -/
structure BlanksApart (c : IntegrationConfig) (v : TemplateValue) (text : String)
    (r r' : StorageRelation) : Prop where
  rest : SameButPlace r r'
  declared : r.externalVolume = Text.unlessBlank text
  stated : r'.externalVolume = Text.trimmed? text
  own : ∀ uri, Model.textOption v "storage_uri" = some uri → r.storageUri = r'.storageUri
  elsewhere : c.catalogType ≠ .biglakeMetastore → c.catalogType ≠ .glue →
    r.storageUri = r'.storageUri
  under : Model.textOption v "storage_uri" = none →
    c.catalogType = .biglakeMetastore ∨ c.catalogType = .glue →
    ∃ path, r.storageUri =
        (Text.unlessBlank text).map (Text.dropSlashesRight · ++ "/" ++ path) ∧
      r'.storageUri = (Text.trimmed? text).map (Text.dropSlashesRight · ++ "/" ++ path)
  eq_iff : r = r' ↔ Text.trim text = text ∨ Text.trim text = ""

/-- What becomes of a volume at both levels.

- `built`: a declaration can be used with any volume.
- `fails`: a model fails with the same failure, whichever level names the volume.
- `resolves`: where it does not fail, only blanks make a difference. -/
structure VolumeAtBothLevels (b : Backend) (d : IntegrationDeclaration) (name : String)
    (allowsWrites : Bool) (c : IntegrationConfig) (v : TemplateValue) (text : String) : Prop where
  built : ∃ c' i, { d with externalVolume := some text }.toConfig name allowsWrites = .ok c' ∧
    onBackend b c' = .ok i
  fails : ∀ f, { d with externalVolume := some text }.resolvedOn b name allowsWrites v = .error f ↔
    d.resolvedOn b name allowsWrites (v.stating "external_volume" (.text text)) = .error f
  resolves : ∀ r r', { d with externalVolume := some text }.resolvedOn b name allowsWrites v = .ok r →
    d.resolvedOn b name allowsWrites (v.stating "external_volume" (.text text)) = .ok r' →
    BlanksApart c v text r r'

section Both

variable {name : String} {allowsWrites : Bool} (hconfig : d.toConfig name allowsWrites = .ok c)
  (hbuilt : onBackend b c = .ok i)

include hconfig hbuilt

theorem resolvedOn_of_config (v : TemplateValue) :
    d.resolvedOn b name allowsWrites v = Model.ofTemplate v >>= i.resolve := by
  rw [IntegrationDeclaration.resolvedOn, hconfig]
  exact resolvedOn_of_built hbuilt v

/-- A declaration can be used with any volume. -/
theorem built_withVolume (text : String) :
    { d with externalVolume := some text }.toConfig name allowsWrites =
        .ok { c with externalVolume := Text.unlessBlank text } ∧
      onBackend b { c with externalVolume := Text.unlessBlank text } =
        .ok (i.withVolume (Text.unlessBlank text)) := by
  constructor
  · rw [IntegrationDeclaration.toConfig_withVolume, hconfig]
    rfl
  · rw [onBackend_withVolume, hbuilt]
    rfl

/-- A volume that is declared is kept unless it is blank. -/
theorem resolvedOn_withVolume (hdeclared : d.externalVolume = none)
    (hunset : (v.member "external_volume").isDefined = false) :
    { d with externalVolume := some text }.resolvedOn b name allowsWrites v =
      Model.ofTemplate v >>= fun m => i.resolve (m.withVolume (Text.unlessBlank text)) := by
  have hnowhere : i.config.externalVolume = none := by
    have hvolume : i.config.externalVolume = c.externalVolume := by
      cases madeFrom_of_onBackend hbuilt <;> rfl
    rw [hvolume, (IntegrationDeclaration.of_toConfig_eq_ok hconfig).2.2, hdeclared, Option.bind_none]
  obtain ⟨hconfig', hbuilt'⟩ := built_withVolume hconfig hbuilt text
  rw [resolvedOn_of_config hconfig' hbuilt']
  refine bind_congr_of_ok fun m hm => resolve_withVolume hnowhere ?_
  obtain ⟨retention, extension, -, -, rfl⟩ := Model.eq_of_ofTemplate hm
  exact Model.textOption_of_undefined hunset

/-- A volume that a model states is trimmed. -/
theorem resolvedOn_stating_volume (hnone : Text.sameToken (Text.trim text) "none" = false) :
    d.resolvedOn b name allowsWrites (v.stating "external_volume" (.text text)) =
      Model.ofTemplate v >>= fun m => i.resolve (m.withVolume (Text.trimmed? text)) := by
  rw [resolvedOn_of_config hconfig hbuilt, Model.ofTemplate_stating_volume v hnone, bind_of_map]

end Both

/-- Where neither an integration nor a model names a volume, every volume but the word `none` can be
named at either level. Blanks around it are kept where it is declared, and are left out where it is
stated. -/
theorem declared_volumes_keep_their_blanks {b : Backend} {d : IntegrationDeclaration} {name : String}
    {allowsWrites : Bool} {c : IntegrationConfig} {i : Integration} {v : TemplateValue} {text : String}
    (hdeclared : d.externalVolume = none) (hconfig : d.toConfig name allowsWrites = .ok c)
    (hbuilt : onBackend b c = .ok i) (hunset : (v.member "external_volume").isDefined = false)
    (hnone : Text.sameToken (Text.trim text) "none" = false) :
    VolumeAtBothLevels b d name allowsWrites c v text := by
  have hnowhere : c.externalVolume = none := by
    rw [(IntegrationDeclaration.of_toConfig_eq_ok hconfig).2.2, hdeclared, Option.bind_none]
  have hdeclares : { d with externalVolume := some text }.resolvedOn b name allowsWrites v = _ :=
    resolvedOn_withVolume hconfig hbuilt hdeclared hunset
  have hstates : d.resolvedOn b name allowsWrites (v.stating "external_volume" (.text text)) = _ :=
    resolvedOn_stating_volume hconfig hbuilt hnone
  -- at both levels one model is resolved, under two volumes that are both set or both blank
  have halike : Alike SameButPlace
      ({ d with externalVolume := some text }.resolvedOn b name allowsWrites v)
      (d.resolvedOn b name allowsWrites (v.stating "external_volume" (.text text))) := by
    rw [hdeclares, hstates]
    refine (alike_refl _).bind ?_
    rintro m _ rfl
    exact alike_resolve (Text.isSome_unlessBlank text)
  obtain ⟨hconfig', hbuilt'⟩ := built_withVolume hconfig hbuilt text
  refine ⟨⟨_, _, hconfig', hbuilt'⟩, halike.error_iff, fun r r' hr hr' => ?_⟩
  have hsame : SameButPlace r r' := by
    rw [hr, hr'] at halike
    exact halike.of_ok
  rw [hdeclares] at hr
  rw [hstates] at hr'
  obtain ⟨m, hm, hr⟩ := exists_of_bind_ok hr
  obtain ⟨m', hm', hr'⟩ := exists_of_bind_ok hr'
  obtain rfl : m = m' := Except.ok.inj (hm.symm.trans hm')
  have h := fieldByField_of_madeFrom (madeFrom_of_onBackend hbuilt) hr
  have h' := fieldByField_of_madeFrom (madeFrom_of_onBackend hbuilt) hr'
  have hkept : r.externalVolume = Text.unlessBlank text := by
    rw [h.common.externalVolume, hnowhere, Option.or_none, Model.withVolume]
  have htrimmed : r'.externalVolume = Text.trimmed? text := by
    rw [h'.common.externalVolume, hnowhere, Option.or_none, Model.withVolume]
  have hset : r.externalVolume.isSome = r'.externalVolume.isSome := by
    rw [hkept, htrimmed, Text.isSome_unlessBlank]
  have huri : m.storageUri = Model.textOption v "storage_uri" := by
    obtain ⟨retention, extension, -, -, rfl⟩ := Model.eq_of_ofTemplate hm
    rfl
  refine
    { rest := hsame
      declared := hkept
      stated := htrimmed
      own := fun uri hown => storageUri_eq_of_own h h' (huri.trans hown)
      elsewhere := storageUri_eq_of_elsewhere h h' hsame
      under := fun hnone htype => ?_
      eq_iff := ?_ }
  · rw [← hkept, ← htrimmed]
    exact exists_path_of_under h h' hsame hset (huri.trans hnone) htype
  · rw [← Text.unlessBlank_eq_trimmed?_iff]
    constructor
    · rintro rfl
      exact hkept.symm.trans htrimmed
    · intro hvolume
      rw [hvolume] at hr
      exact Except.ok.inj (hr.symm.trans hr')

/-- An integration for tables in a bucket that models name. -/
def bucketDeclaration : IntegrationDeclaration where
  name := "primary"
  catalogType := "biglake_metastore"

/-- The slash at the end of a bucket is left out, but not where a blank follows it. -/
theorem declared_volumes_keep_their_blanks_bucket :
    ∃ c i r r', bucketDeclaration.toConfig "lake" true = .ok c ∧ onBackend .bigquery c = .ok i ∧
      { bucketDeclaration with externalVolume := some " gs://bucket/ " }.resolvedOn .bigquery "lake" true
        bareTemplate = .ok r ∧
      bucketDeclaration.resolvedOn .bigquery "lake" true
        (bareTemplate.stating "external_volume" (.text " gs://bucket/ ")) = .ok r' ∧
      r.storageUri = some " gs://bucket/ /_dbt/s/t" ∧ r'.storageUri = some "gs://bucket/_dbt/s/t" ∧
      VolumeAtBothLevels .bigquery bucketDeclaration "lake" true c bareTemplate " gs://bucket/ " := by
  obtain ⟨c, hconfig, i, hbuilt, r, hr, r', hr', huri, huri'⟩ :
      ∃ c, bucketDeclaration.toConfig "lake" true = .ok c ∧ ∃ i, onBackend .bigquery c = .ok i ∧
        ∃ r, { bucketDeclaration with externalVolume := some " gs://bucket/ " }.resolvedOn .bigquery
          "lake" true bareTemplate = .ok r ∧
        ∃ r', bucketDeclaration.resolvedOn .bigquery "lake" true
          (bareTemplate.stating "external_volume" (.text " gs://bucket/ ")) = .ok r' ∧
        r.storageUri = some " gs://bucket/ /_dbt/s/t" ∧
        r'.storageUri = some "gs://bucket/_dbt/s/t" :=
    ⟨_, rfl, _, rfl, _, rfl, _, rfl, rfl, rfl⟩
  exact ⟨c, i, r, r', hconfig, hbuilt, hr, hr', huri, huri',
    declared_volumes_keep_their_blanks rfl hconfig hbuilt rfl (by decide)⟩

/-- One bucket counts as two, if there are blanks around it: both levels resolve the same model, to
relations under different volumes and addresses. -/
theorem blanks_of_a_declared_volume_count :
    ∃ r r', { bucketDeclaration with externalVolume := some " gs://bucket " }.resolvedOn .bigquery "lake"
        true bareTemplate = .ok r ∧
      bucketDeclaration.resolvedOn .bigquery "lake" true
        (bareTemplate.stating "external_volume" (.text " gs://bucket ")) = .ok r' ∧
      r.externalVolume = some " gs://bucket " ∧ r'.externalVolume = some "gs://bucket" ∧
      r.storageUri = some " gs://bucket /_dbt/s/t" ∧ r'.storageUri = some "gs://bucket/_dbt/s/t" ∧
      r ≠ r' := by
  refine ⟨_, _, rfl, rfl, rfl, rfl, rfl, rfl, fun heq => ?_⟩
  exact absurd (congrArg (·.externalVolume) heq) (by decide)

end Lakehouse
