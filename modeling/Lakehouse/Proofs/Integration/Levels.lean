import Lakehouse.Proofs.Integration.Resolvable
import Lakehouse.Proofs.Model.Reading

/-!
# Options at two levels

An option of managed tables is declared with an integration, for every model, or stated by one model.
A text takes a different way at each level: a property is kept as it is written and understood when
the integration is built, and an option of a model is trimmed when the model is read and understood when
it is resolved. Where neither level says anything else, a text means the same at both.

- `ManagedOption`: the options, and the texts that each of them accepts.
- `ManagedOption.declare`, `ManagedOption.state`: what an accepted text comes to at either level
  (`ManagedOption.of_declaring`, `ManagedOption.ofTemplate_stating`). The two are resolved alike
  (`ManagedOption.resolve_declare`).
- `Integration.AlikeAtBothLevels`: a text is accepted at both levels and comes to the same relation, or
  is refused at both.
- **`options_mean_the_same_at_both_levels`**: this is so for every text but the word `none`.
-/

namespace Lakehouse

/-- An option of managed tables. -/
inductive ManagedOption where
  | root
  | subpath
  | tracking
  | policy
  | retention
  | extension
  deriving DecidableEq, Repr

/-- The declaration with a property set to a text. -/
def IntegrationConfig.declaring (c : IntegrationConfig) (key text : String) : IntegrationConfig :=
  { c with properties := c.properties.insert key text }

namespace IntegrationConfig

variable {c : IntegrationConfig} {key other text : String}

theorem property?_declaring_self : (c.declaring key text).property? key = Text.unlessBlank text := by
  rw [property?, declaring, NameMap.get?_insert_self, Option.bind_some]

theorem property?_declaring_of_ne (h : other ≠ key) :
    (c.declaring key text).property? other = c.property? other := by
  rw [property?, property?, declaring, NameMap.get?_insert_of_ne _ _ h]

theorem get?_declaring_of_ne (h : other ≠ key) :
    (c.declaring key text).properties.get? other = c.properties.get? other :=
  NameMap.get?_insert_of_ne _ _ h

theorem daysProperty_declaring (days : String) :
    (c.declaring key text).daysProperty days = c.daysProperty days :=
  Integration.daysProperty_with days

end IntegrationConfig

namespace ManagedOption

/-- The name of the option, at both levels. -/
def key : ManagedOption → String
  | root => "base_location_root"
  | subpath => "base_location_subpath"
  | tracking => "change_tracking"
  | policy => "storage_serialization_policy"
  | retention => "data_retention_time_in_days"
  | extension => "max_data_extension_time_in_days"

/-- The text means something as the option. A blank text sets nothing, but it is no truth value. -/
def Accepts (text : String) : ManagedOption → Prop
  | root | subpath => True
  | tracking => SpelledAs text "true" ∨ SpelledAs text "false"
  | policy => Text.trim text ≠ "" → SpelledAs text "compatible" ∨ SpelledAs text "optimized"
  | retention | extension => Text.trim text ≠ "" → SpellsDays text

/-- The options of an integration with one of them declared. -/
def declare (text : String) (o : ManagedOptions) : ManagedOption → ManagedOptions
  | root => { o with baseLocationRoot := Text.unlessBlank text }
  | subpath => { o with baseLocationSubpath := Text.unlessBlank text }
  | tracking =>
    { o with changeTracking := some (truthToken (Text.sameToken (Text.trim text) "true")) }
  | policy =>
    { o with
      serializationPolicy :=
        readToken? SerializationPolicy.token SerializationPolicy.all (Text.trim text) }
  | retention => { o with dataRetentionDays := (Decimal.signed64? (Text.trim text)).map Int.toNat }
  | extension => { o with maxExtensionDays := (Decimal.signed64? (Text.trim text)).map Int.toNat }

/-- A model with one of the options stated. -/
def state (text : String) (m : Model) : ManagedOption → Model
  | root => { m with baseLocationRoot := Text.trimmed? text }
  | subpath => { m with baseLocationSubpath := Text.trimmed? text }
  | tracking => { m with changeTracking := some (.text text) }
  | policy => { m with serializationPolicy := Text.trimmed? text }
  | retention => { m with dataRetentionDays := Decimal.signed64? (Text.trim text) }
  | extension => { m with maxExtensionDays := Decimal.signed64? (Text.trim text) }

/-- Neither level says anything about the option. -/
def Open (o : ManagedOptions) (m : Model) : ManagedOption → Prop
  | root => o.baseLocationRoot = none ∧ m.baseLocationRoot = none
  | subpath => o.baseLocationSubpath = none ∧ m.baseLocationSubpath = none
  | tracking => o.changeTracking = none ∧ m.changeTracking = none
  | policy => o.serializationPolicy = none ∧ m.serializationPolicy = none
  | retention => o.dataRetentionDays = none ∧ m.dataRetentionDays = none
  | extension => o.maxExtensionDays = none ∧ m.maxExtensionDays = none

end ManagedOption

/-! ## Accepted texts -/

section Accepted

variable {kind : FailureKind} {text : String}

/-- What is left of a text is the same before and after it is trimmed. -/
theorem Text.trimmed_twice (text : String) :
    (Text.unlessBlank text).bind Text.trimmed? = (Text.trimmed? text).bind Text.trimmed? := by
  by_cases hblank : Text.isBlankText text = true
  · have hunset : Text.unlessBlank text = none := if_pos hblank
    have htrimmed : Text.trimmed? text = none := if_pos hblank
    rw [hunset, htrimmed]
  · have hset : Text.unlessBlank text = some text := if_neg hblank
    have htrimmed : Text.trimmed? text = some (Text.trim text) := if_neg hblank
    rw [hset, htrimmed, Option.bind_some, Option.bind_some, Text.trimmed?_eq, Text.trimmed?_eq,
      Text.trim_trim]

theorem trackingToken_of_spelled (h : SpelledAs text "true" ∨ SpelledAs text "false") :
    trackingToken kind (.text text) =
      .ok (truthToken (Text.sameToken (Text.trim text) "true")) := by
  obtain ⟨token, htoken⟩ := (checks_trackingToken kind text).exists_ok_iff.2 h
  rw [trackingToken] at htoken ⊢
  split
  · next htrue => rw [htrue]
  · next hnot =>
    rw [if_neg hnot] at htoken
    split at htoken
    · next hfalse => rw [if_pos hfalse, Bool.eq_false_iff.2 hnot]
    · cases htoken

theorem optional_tracking (h : SpelledAs text "true" ∨ SpelledAs text "false") :
    optional (trackingToken kind) (some (.text text)) =
      .ok (some (truthToken (Text.sameToken (Text.trim text) "true"))) := by
  rw [optional, trackingToken_of_spelled h]
  rfl

/-- A blank text names no policy, and every other text that is accepted names one. -/
theorem optional_policy
    (h : Text.trim text ≠ "" → SpelledAs text "compatible" ∨ SpelledAs text "optimized") :
    optional (SerializationPolicy.parse kind) (Text.unlessBlank text) =
      .ok (readToken? SerializationPolicy.token SerializationPolicy.all (Text.trim text)) := by
  by_cases hblank : Text.trim text = ""
  · rw [Text.unlessBlank, if_pos ((Text.isBlankText_iff_trim text).2 hblank), hblank]
    rfl
  · obtain ⟨policy, hpolicy⟩ := (checks_policy kind text).exists_ok_iff.2 (h hblank)
    rw [Text.unlessBlank_eq_some_iff.2 ⟨rfl, hblank⟩, optional]
    rw [SerializationPolicy.parse] at hpolicy ⊢
    split at hpolicy
    · next hread =>
      rw [hread]
      rfl
    · cases hpolicy

/-- A policy is read from what is left of a text as from the text. -/
theorem optional_trimmed_policy
    (h : Text.trim text ≠ "" → SpelledAs text "compatible" ∨ SpelledAs text "optimized") :
    optional (SerializationPolicy.parse kind) (Text.trimmed? text) =
      .ok (readToken? SerializationPolicy.token SerializationPolicy.all (Text.trim text)) := by
  have hparse : SerializationPolicy.parse kind (Text.trim text) =
      SerializationPolicy.parse kind text := by
    rw [SerializationPolicy.parse, SerializationPolicy.parse, Text.trim_trim]
  have hread : optional (SerializationPolicy.parse kind) (Text.unlessBlank text) = .ok _ :=
    optional_policy h
  rw [← hread, Text.trimmed?, Text.unlessBlank]
  split
  · rfl
  · rw [optional, optional, hparse]

/-- A blank text is no number of days, and every other text that is accepted is one. -/
theorem days_of_accepted (h : Text.trim text ≠ "" → SpellsDays text) :
    Decimal.signed64? (Text.trim text) = none ∧ Text.unlessBlank text = none ∨
      ∃ n, Decimal.signed64? (Text.trim text) = some n ∧ Text.unlessBlank text = some text ∧
        0 ≤ n ∧ n ≤ 90 := by
  by_cases hblank : Text.trim text = ""
  · left
    rw [Text.unlessBlank, if_pos ((Text.isBlankText_iff_trim text).2 hblank), hblank]
    exact ⟨by decide, rfl⟩
  · obtain ⟨n, hread, hdays⟩ := spellsDays_iff.1 (h hblank)
    exact .inr ⟨n, hread, Text.unlessBlank_eq_some_iff.2 ⟨rfl, hblank⟩, hdays⟩

theorem retentionDays_of_within {key : String} {n : Int} (h : 0 ≤ n ∧ n ≤ 90) :
    retentionDays kind key n = .ok n.toNat :=
  if_pos h

theorem optional_daysProperty (c : IntegrationConfig) (key : String)
    (h : Text.trim text ≠ "" → SpellsDays text) :
    optional (c.daysProperty key) (Text.unlessBlank text) =
      .ok ((Decimal.signed64? (Text.trim text)).map Int.toNat) := by
  obtain ⟨hread, hblank⟩ | ⟨n, hread, hfilled, hdays⟩ := days_of_accepted h
  · rw [hread, hblank]
    rfl
  · simp only [hread, hfilled, optional, IntegrationConfig.daysProperty,
      retentionDays_of_within hdays]
    rfl

theorem optional_retentionDays (key : String) (h : Text.trim text ≠ "" → SpellsDays text) :
    optional (retentionDays kind key) (Decimal.signed64? (Text.trim text)) =
      .ok ((Decimal.signed64? (Text.trim text)).map Int.toNat) := by
  obtain ⟨hread, -⟩ | ⟨n, hread, -, hdays⟩ := days_of_accepted h
  · rw [hread]
    rfl
  · rw [hread, optional, retentionDays_of_within hdays]
    rfl

end Accepted

/-! ## Declaring -/

/-- The options are what the properties come to, each by its own rule. -/
structure ManagedOptions.Of (c : IntegrationConfig) (o : ManagedOptions) : Prop where
  root : c.property? "base_location_root" = o.baseLocationRoot
  subpath : c.property? "base_location_subpath" = o.baseLocationSubpath
  tracking : optional (fun raw => trackingToken .invalidIntegrationConfig (.text raw))
    (c.properties.get? "change_tracking") = .ok o.changeTracking
  policy : optional (SerializationPolicy.parse .invalidIntegrationConfig)
    (c.property? "storage_serialization_policy") = .ok o.serializationPolicy
  retention : optional (c.daysProperty "data_retention_time_in_days")
    (c.property? "data_retention_time_in_days") = .ok o.dataRetentionDays
  extension : optional (c.daysProperty "max_data_extension_time_in_days")
    (c.property? "max_data_extension_time_in_days") = .ok o.maxExtensionDays

theorem ManagedOptions.ofConfig_eq_ok_iff {c : IntegrationConfig} {o : ManagedOptions} :
    ManagedOptions.ofConfig c = .ok o ↔ ManagedOptions.Of c o := by
  constructor
  · intro h
    obtain ⟨tracking, policy, retention, extension, htracking, hpolicy, hretention, hextension, rfl⟩ :=
      Integration.eq_of_managedOptions h
    exact ⟨rfl, rfl, htracking, hpolicy, hretention, hextension⟩
  · intro h
    simp only [ManagedOptions.ofConfig, h.root, h.subpath, h.tracking, h.policy, h.retention,
      h.extension]
    rfl

namespace ManagedOption

variable {c : IntegrationConfig} {o : ManagedOptions} {v : TemplateValue} {m : Model}
  {option : ManagedOption} {text : String}

/-- Where one option is declared besides, and its text is accepted, the others are understood as
before. -/
theorem of_declaring (haccepts : option.Accepts text) (h : ManagedOptions.Of c o) :
    ManagedOptions.Of (c.declaring option.key text) (option.declare text o) where
  root := by
    cases option with
    | root => exact IntegrationConfig.property?_declaring_self
    | _ =>
      rw [IntegrationConfig.property?_declaring_of_ne (by decide)]
      dsimp only [declare]
      exact h.root
  subpath := by
    cases option with
    | subpath => exact IntegrationConfig.property?_declaring_self
    | _ =>
      rw [IntegrationConfig.property?_declaring_of_ne (by decide)]
      dsimp only [declare]
      exact h.subpath
  tracking := by
    cases option with
    | tracking =>
      rw [key, IntegrationConfig.declaring, NameMap.get?_insert_self, optional,
        trackingToken_of_spelled haccepts]
      rfl
    | _ =>
      rw [IntegrationConfig.get?_declaring_of_ne (by decide)]
      dsimp only [declare]
      exact h.tracking
  policy := by
    cases option with
    | policy =>
      rw [key, IntegrationConfig.property?_declaring_self]
      dsimp only [declare]
      exact optional_policy haccepts
    | _ =>
      rw [IntegrationConfig.property?_declaring_of_ne (by decide)]
      dsimp only [declare]
      exact h.policy
  retention := by
    rw [IntegrationConfig.daysProperty_declaring]
    cases option with
    | retention =>
      rw [key, IntegrationConfig.property?_declaring_self]
      dsimp only [declare]
      exact optional_daysProperty c _ haccepts
    | _ =>
      rw [IntegrationConfig.property?_declaring_of_ne (by decide)]
      dsimp only [declare]
      exact h.retention
  extension := by
    rw [IntegrationConfig.daysProperty_declaring]
    cases option with
    | extension =>
      rw [key, IntegrationConfig.property?_declaring_self]
      dsimp only [declare]
      exact optional_daysProperty c _ haccepts
    | _ =>
      rw [IntegrationConfig.property?_declaring_of_ne (by decide)]
      dsimp only [declare]
      exact h.extension

/-! ## Stating -/

theorem integerOption_stating_of_accepted (key : String)
    (hnone : Text.sameToken (Text.trim text) "none" = false)
    (haccepts : Text.trim text ≠ "" → SpellsDays text) :
    Model.integerOption (v.stating key (.text text)) key =
      .ok (Decimal.signed64? (Text.trim text)) := by
  rw [Model.integerOption_stating v key hnone]
  split
  · next hblank =>
    rw [hblank]
    rfl
  · next hfilled =>
    obtain ⟨n, hread, -⟩ := spellsDays_iff.1 (haccepts hfilled)
    rw [hread]

/-- Where one option is stated besides, and its text is accepted, the rest of a model is read as
before. -/
theorem ofTemplate_stating
    (hnone : option = .tracking ∨ Text.sameToken (Text.trim text) "none" = false)
    (haccepts : option.Accepts text) (hunset : (v.member option.key).isDefined = false) :
    Model.ofTemplate (v.stating option.key (.text text)) =
      (Model.ofTemplate v).map (option.state text) := by
  cases option with
  | root | subpath | policy =>
    have hread := fun key => (Model.textOption_stating v key text).trans
      (Model.unlessUnset_trim (hnone.resolve_left (by decide)))
    simp (disch := decide) only [key, Model.ofTemplate, Model.textOption_stating_of_ne,
      Model.renamedOption_stating_of_ne, Model.flagOption_stating_of_ne, Model.listOption_stating_of_ne,
      Model.integerOption_stating_of_ne, hread, map_of_bind]
    rfl
  | tracking =>
    simp (disch := decide) only [key, Model.ofTemplate, Model.textOption_stating_of_ne,
      Model.renamedOption_stating_of_ne, Model.flagOption_stating, Model.listOption_stating_of_ne,
      Model.integerOption_stating_of_ne, map_of_bind]
    rfl
  | retention | extension =>
    have hread := fun key => integerOption_stating_of_accepted (v := v) key
      (hnone.resolve_left (by decide)) haccepts
    have hunread := Model.integerOption_of_undefined hunset
    simp only [key] at hunread
    simp (disch := decide) only [key, Model.ofTemplate, Model.textOption_stating_of_ne,
      Model.renamedOption_stating_of_ne, Model.flagOption_stating_of_ne, Model.listOption_stating_of_ne,
      Model.integerOption_stating_of_ne, hread, hunread, map_of_bind]
    rfl

theorem eq_none_of_optional {α β : Type} {rule : α → Answer β} {given : Option α}
    {value : Option β} (h : optional rule given = .ok value) (hnone : given = none) :
    value = none := by
  rw [hnone] at h
  exact (Except.ok.inj h).symm

/-- Where neither the properties nor the model say anything about an option, it is open. -/
theorem open_of_unset (ho : ManagedOptions.Of c o) (hm : Model.ofTemplate v = .ok m)
    (hundeclared : c.properties.get? option.key = none)
    (hunset : (v.member option.key).isDefined = false) : option.Open o m := by
  have hproperty : c.property? option.key = none := by
    rw [IntegrationConfig.property?, hundeclared, Option.bind_none]
  have htext := Model.textOption_of_undefined hunset
  have hdays := Model.integerOption_of_undefined hunset
  obtain ⟨retention, extension, hretention, hextension, rfl⟩ := Model.eq_of_ofTemplate hm
  cases option with
  | root => exact ⟨ho.root.symm.trans hproperty, htext⟩
  | subpath => exact ⟨ho.subpath.symm.trans hproperty, htext⟩
  | tracking =>
    exact ⟨eq_none_of_optional ho.tracking hundeclared, Model.flagOption_of_undefined hunset⟩
  | policy => exact ⟨eq_none_of_optional ho.policy hproperty, htext⟩
  | retention =>
    exact ⟨eq_none_of_optional ho.retention hproperty, Except.ok.inj (hretention.symm.trans hdays)⟩
  | extension =>
    exact ⟨eq_none_of_optional ho.extension hproperty, Except.ok.inj (hextension.symm.trans hdays)⟩

/-! ## Resolving -/

@[simp] theorem state_schema : (option.state text m).schema = m.schema := by
  cases option <;> simp only [state]

@[simp] theorem state_identifier : (option.state text m).identifier = m.identifier := by
  cases option <;> simp only [state]

@[simp] theorem state_tableFormat : (option.state text m).tableFormat = m.tableFormat := by
  cases option <;> simp only [state]

@[simp] theorem state_fileFormat : (option.state text m).fileFormat = m.fileFormat := by
  cases option <;> simp only [state]

@[simp] theorem state_externalVolume : (option.state text m).externalVolume = m.externalVolume := by
  cases option <;> simp only [state]

@[simp] theorem state_storageUri : (option.state text m).storageUri = m.storageUri := by
  cases option <;> simp only [state]

/-- What an option comes to does not depend on the level at which it is given. -/
theorem override_moved {α β : Type} {i i' : Integration} {m m' : Model} {rule : α → Answer β}
    {own own' : Option α} {given given' : Option β} (hfailing : i'.failing m' = i.failing m)
    (h : own' = own ∧ given' = given ∨
      own' = none ∧ given = none ∧ optional rule own = .ok given') :
    i'.override m' rule own' given' = i.override m rule own given := by
  obtain ⟨rfl, rfl⟩ | ⟨rfl, rfl, hread⟩ := h
  · exact Integration.override_congr hfailing rule own' given'
  · cases own with
    | none => exact hread.symm
    | some a =>
      obtain ⟨b, hb, rfl⟩ := exists_of_map_ok hread
      simp only [Integration.override, hb]
      rfl

open Integration in
/-- An option that is declared is resolved like one that is stated. -/
theorem resolve_declare (location : ManagedLocation) (haccepts : option.Accepts text)
    (hopen : option.Open o m) :
    (⟨c.declaring option.key text, .managed location (option.declare text o)⟩ : Integration).resolve m =
      (⟨c, .managed location o⟩ : Integration).resolve (option.state text m) := by
  have hfailing : failing ⟨c.declaring option.key text, .managed location (option.declare text o)⟩ m =
      failing ⟨c, .managed location o⟩ (option.state text m) :=
    failing_congr rfl state_schema.symm state_identifier.symm
  have hcommon : common ⟨c.declaring option.key text, .managed location (option.declare text o)⟩ m =
      common ⟨c, .managed location o⟩ (option.state text m) :=
    common_congr rfl state_schema.symm state_identifier.symm state_tableFormat.symm
      state_fileFormat.symm (by rw [state_externalVolume])
  have hbase : managedBase? (option.declare text o) m = managedBase? o (option.state text m) := by
    refine managedBase?_congr state_schema.symm state_identifier.symm ?_ ?_
    · cases option with
      | root =>
        obtain ⟨ho, hm⟩ := hopen
        simp only [declare, state, ho, hm, Option.none_or, Option.or_none, Text.trimmed_twice]
      | _ => simp only [declare, state]
    · cases option with
      | subpath =>
        obtain ⟨ho, hm⟩ := hopen
        simp only [declare, state, ho, hm, Option.none_or, Option.or_none, Text.trimmed_twice]
      | _ => simp only [declare, state]
  refine resolveManaged_congr location hfailing hcommon state_storageUri.symm hbase
    (override_moved hfailing ?_) (override_moved hfailing ?_) (override_moved hfailing ?_)
    (override_moved hfailing ?_)
  · cases option with
    | tracking =>
      dsimp only [declare, state]
      exact .inr ⟨hopen.2, hopen.1, optional_tracking haccepts⟩
    | _ => simp only [declare, state, and_self, true_or]
  · cases option with
    | policy =>
      dsimp only [declare, state]
      exact .inr ⟨hopen.2, hopen.1, optional_trimmed_policy haccepts⟩
    | _ => simp only [declare, state, and_self, true_or]
  · cases option with
    | retention =>
      dsimp only [declare, state]
      exact .inr ⟨hopen.2, hopen.1, optional_retentionDays _ haccepts⟩
    | _ => simp only [declare, state, and_self, true_or]
  · cases option with
    | extension =>
      dsimp only [declare, state]
      exact .inr ⟨hopen.2, hopen.1, optional_retentionDays _ haccepts⟩
    | _ => simp only [declare, state, and_self, true_or]

/-! ## Refusing -/

/-- A valid declaration has a text that the option accepts. -/
theorem accepts_of_validOptions (h : ValidOptions (c.declaring option.key text).properties) :
    option.Accepts text := by
  have hdeclared : (c.declaring option.key text).properties.get? option.key = some text :=
    NameMap.get?_insert_self _ _ _
  cases option with
  | root | subpath => trivial
  | tracking => exact h.changeTracking text hdeclared
  | policy => exact h.policy text hdeclared
  | retention => exact h.retention text hdeclared
  | extension => exact h.extension text hdeclared

/-- A number of days that is stated and within the limits is spelled. -/
theorem spellsDays_of_stating {key : String} {days : Option Int}
    (hnone : Text.sameToken (Text.trim text) "none" = false) (hfilled : Text.trim text ≠ "")
    (hread : Model.integerOption (v.stating key (.text text)) key = .ok days)
    (hdays : ∀ n, days = some n → 0 ≤ n ∧ n ≤ 90) : SpellsDays text := by
  rw [Model.integerOption_stating v key hnone, if_neg hfilled] at hread
  split at hread
  · next n hn => exact spellsDays_iff.2 ⟨n, hn, hdays n (Except.ok.inj hread).symm⟩
  · cases hread

/-- A model with valid overrides states a text that the option accepts. -/
theorem accepts_of_validOverrides
    (hnone : option = .tracking ∨ Text.sameToken (Text.trim text) "none" = false)
    (hm : Model.ofTemplate (v.stating option.key (.text text)) = .ok m) (h : m.ValidOverrides) :
    option.Accepts text := by
  obtain ⟨retention, extension, hretention, hextension, rfl⟩ := Model.eq_of_ofTemplate hm
  cases option with
  | root | subpath => trivial
  | tracking => exact h.changeTracking text (Model.flagOption_stating v _ text)
  | policy =>
    intro hfilled
    have hstated : Model.textOption (v.stating policy.key (.text text)) policy.key =
        some (Text.trim text) := by
      rw [Model.textOption_stating, Model.unlessUnset_trim (hnone.resolve_left (by decide)),
        Text.trimmed?_eq, if_neg hfilled]
    have hspelled := h.policy (Text.trim text) hstated
    simpa only [SpelledAs, Text.trim_trim] using hspelled
  | retention =>
    exact fun hfilled =>
      spellsDays_of_stating (hnone.resolve_left (by decide)) hfilled hretention h.retention
  | extension =>
    exact fun hfilled =>
      spellsDays_of_stating (hnone.resolve_left (by decide)) hfilled hextension h.extension

end ManagedOption

/-! ## Both levels -/

namespace Integration

/-- A model that is read from a template, resolved by an integration as it is declared. -/
def resolvedOn (b : Backend) (c : IntegrationConfig) (v : TemplateValue) : Answer StorageRelation := do
  let i ← onBackend b c
  let m ← Model.ofTemplate v
  i.resolve m

/-- A text means the same as a property of an integration and as an option of a model.

- `accepted`: if the option accepts it, the declaration is valid, and the model is resolved alike, to the
  same relation or with the same failure.
- `refused`: if it does not, the declaration fails, and so does the model, each with its own kind of
  failure.
- `agree`: in any case the same relation is resolved or none. -/
structure AlikeAtBothLevels (b : Backend) (c : IntegrationConfig) (v : TemplateValue)
    (option : ManagedOption) (text : String) : Prop where
  accepted : option.Accepts text → (∃ i, onBackend b (c.declaring option.key text) = .ok i) ∧
    resolvedOn b (c.declaring option.key text) v =
      resolvedOn b c (v.stating option.key (.text text))
  refused : ¬ option.Accepts text →
    (∃ f, onBackend b (c.declaring option.key text) = .error f ∧
      f.kind = .invalidIntegrationConfig) ∧
    ∃ f, resolvedOn b c (v.stating option.key (.text text)) = .error f ∧ f.kind = .resolution
  agree : ∀ r, resolvedOn b (c.declaring option.key text) v = .ok r ↔
    resolvedOn b c (v.stating option.key (.text text)) = .ok r

variable {b : Backend} {c : IntegrationConfig} {i : Integration} {v : TemplateValue}
  {option : ManagedOption} {text : String}

theorem supported_of_onBackend (h : onBackend b c = .ok i) : c.catalogType ∈ b.supportedTypes := by
  by_contra hunsupported
  rw [onBackend_of_unsupported hunsupported] at h
  cases h

theorem resolvedOn_of_built (h : onBackend b c = .ok i) (v : TemplateValue) :
    resolvedOn b c v = Model.ofTemplate v >>= i.resolve := by
  rw [resolvedOn, h]
  rfl

/-- A managed integration with an accepted text declared besides is built like the one without. -/
theorem exists_onBackend_declaring (hbuilt : onBackend b c = .ok i)
    (hbehaviour : c.catalogType.behaviour = .managedExternal) (haccepts : option.Accepts text) :
    ∃ location o, ManagedOptions.Of c o ∧ i = ⟨c, .managed location o⟩ ∧
      onBackend b (c.declaring option.key text) =
        .ok ⟨c.declaring option.key text, .managed location (option.declare text o)⟩ := by
  obtain ⟨location, o, hlocation, ho, hwrites, rfl⟩ :=
    (madeFrom_of_onBackend hbuilt).exists_managed hbehaviour
  have hof := ManagedOptions.ofConfig_eq_ok_iff.1 ho
  have hoptions := ManagedOptions.ofConfig_eq_ok_iff.2 (ManagedOption.of_declaring haccepts hof)
  -- a property more is no other catalog type
  have hsupported : (c.declaring option.key text).catalogType ∈ b.supportedTypes :=
    supported_of_onBackend (c := c) hbuilt
  have hlocated : managedLocation? (c.declaring option.key text).catalogType = some location :=
    hlocation
  have hmanaged : (c.declaring option.key text).catalogType.behaviour = .managedExternal := hbehaviour
  refine ⟨location, o, hof, rfl, ?_⟩
  rw [onBackend_eq hsupported (.inl hwrites), hmanaged]
  simp only [managed, hlocated, hoptions]
  rfl

section Both

variable (hbuilt : onBackend b c = .ok i)
  (hbehaviour : c.catalogType.behaviour = .managedExternal)

include hbuilt hbehaviour

/-- An accepted text means the same at both levels. -/
theorem resolvedOn_declaring (hundeclared : c.properties.get? option.key = none)
    (hunset : (v.member option.key).isDefined = false)
    (hnone : option = .tracking ∨ Text.sameToken (Text.trim text) "none" = false)
    (haccepts : option.Accepts text) :
    resolvedOn b (c.declaring option.key text) v =
      resolvedOn b c (v.stating option.key (.text text)) := by
  obtain ⟨location, o, ho, rfl, hdeclared⟩ :=
    exists_onBackend_declaring hbuilt hbehaviour haccepts
  rw [resolvedOn_of_built hdeclared, resolvedOn_of_built hbuilt,
    ManagedOption.ofTemplate_stating hnone haccepts hunset, bind_of_map]
  refine bind_congr_of_ok fun m hm => ?_
  exact ManagedOption.resolve_declare location haccepts
    (ManagedOption.open_of_unset ho hm hundeclared hunset)

/-- A text that the option does not accept is refused in the declaration. -/
theorem onBackend_declaring_of_refused (hrefused : ¬ option.Accepts text) :
    ∃ f, onBackend b (c.declaring option.key text) = .error f ∧
      f.kind = .invalidIntegrationConfig := by
  have hsupported : (c.declaring option.key text).catalogType ∈ b.supportedTypes :=
    supported_of_onBackend (c := c) hbuilt
  refine (checks_onBackend hsupported).exists_error fun hvalid => hrefused ?_
  exact ManagedOption.accepts_of_validOptions
    (hvalid.managed (behaviour_eq_managedExternal_iff.1 hbehaviour))

/-- A text that the option does not accept is refused in the model. -/
theorem resolvedOn_stating_of_refused
    (hnone : option = .tracking ∨ Text.sameToken (Text.trim text) "none" = false)
    (hrefused : ¬ option.Accepts text) :
    ∃ f, resolvedOn b c (v.stating option.key (.text text)) = .error f ∧ f.kind = .resolution := by
  rw [resolvedOn_of_built hbuilt]
  cases hanswer : Model.ofTemplate (v.stating option.key (.text text)) >>= i.resolve with
  | error f =>
    have hfails := (Model.failsToResolve_ofTemplate (v.stating option.key (.text text))).bind
      (failsToResolve_resolve i)
    exact ⟨f, rfl, hfails f hanswer⟩
  | ok r =>
    obtain ⟨m, hm, hr⟩ := exists_of_bind_ok hanswer
    have hmade := madeFrom_of_onBackend hbuilt
    have hresolvable := (checks_resolve hmade m).exists_ok_iff.1 ⟨r, hr⟩
    have hvalid := hresolvable.overrides
      (behaviour_eq_managedExternal_iff.1 (hmade.catalogType_eq ▸ hbehaviour))
    exact absurd (ManagedOption.accepts_of_validOverrides hnone hm hvalid) hrefused

end Both

end Integration

open Integration

/-- Where neither an integration nor a model says anything about an option of managed tables, every text
but the word `none` means the same at both levels. For a flag that word is no exception: it is no truth
value at either. -/
theorem options_mean_the_same_at_both_levels {b : Backend} {c : IntegrationConfig} {i : Integration}
    {v : TemplateValue} {option : ManagedOption} {text : String} (hbuilt : onBackend b c = .ok i)
    (hbehaviour : c.catalogType.behaviour = .managedExternal)
    (hundeclared : c.properties.get? option.key = none)
    (hunset : (v.member option.key).isDefined = false)
    (hnone : option = .tracking ∨ Text.sameToken (Text.trim text) "none" = false) :
    AlikeAtBothLevels b c v option text := by
  have haccepted := resolvedOn_declaring hbuilt hbehaviour hundeclared hunset hnone
  have hrefused (h : ¬ option.Accepts text) := And.intro
    (onBackend_declaring_of_refused hbuilt hbehaviour h)
    (resolvedOn_stating_of_refused (v := v) hbuilt hbehaviour hnone h)
  refine ⟨fun h => ⟨?_, haccepted h⟩, hrefused, fun r => ?_⟩
  · obtain ⟨location, o, -, -, hdeclared⟩ := exists_onBackend_declaring hbuilt hbehaviour h
    exact ⟨_, hdeclared⟩
  · by_cases h : option.Accepts text
    · rw [haccepted h]
    · obtain ⟨⟨f, hf, -⟩, g, hg, -⟩ := hrefused h
      rw [resolvedOn, hf, hg]
      exact iff_of_false (by rintro ⟨⟩) (by rintro ⟨⟩)

/-- A template that states where its table belongs, and nothing else. -/
def bareTemplate : TemplateValue :=
  .map [("identifier", .text "t"), ("schema", .text "s")]

/-- A number of days is read past its blanks, its sign and its zeros, and it has to be within the limit. -/
theorem options_mean_the_same_at_both_levels_days :
    (∃ i r, onBackend .bigquery bucketConfig = .ok i ∧
      resolvedOn .bigquery (bucketConfig.declaring "max_data_extension_time_in_days" " +030 ")
        bareTemplate = .ok r ∧
      r.maxExtensionDays = some 30 ∧
      AlikeAtBothLevels .bigquery bucketConfig bareTemplate .extension " +030 ") ∧
    ¬ ManagedOption.Accepts "91" .extension ∧
    AlikeAtBothLevels .bigquery bucketConfig bareTemplate .extension "91" := by
  obtain ⟨i, hbuilt, r, hr, hdays⟩ : ∃ i, onBackend .bigquery bucketConfig = .ok i ∧
      ∃ r, resolvedOn .bigquery
        (bucketConfig.declaring "max_data_extension_time_in_days" " +030 ") bareTemplate = .ok r ∧
        r.maxExtensionDays = some 30 :=
    ⟨_, rfl, _, rfl, rfl⟩
  have halike (text : String) (hnone : Text.sameToken (Text.trim text) "none" = false) :
      AlikeAtBothLevels .bigquery bucketConfig bareTemplate .extension text :=
    options_mean_the_same_at_both_levels hbuilt rfl rfl rfl (.inr hnone)
  refine ⟨⟨i, r, hbuilt, hr, hdays, halike _ (by decide)⟩, fun haccepts => ?_, halike _ (by decide)⟩
  obtain ⟨n, hread, -, hmost⟩ := spellsDays_iff.1 (haccepts (by decide))
  obtain rfl : n = 91 := Option.some.inj (hread.symm.trans (by decide))
  exact absurd hmost (by decide)

end Lakehouse
