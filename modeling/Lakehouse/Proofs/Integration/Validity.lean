import Lakehouse.Proofs.Decimal.Numeral
import Lakehouse.Proofs.Integration.Writes

/-!
# Valid declarations

Which declarations a backend can use, and that an integration is built from these and from no others.
What is checked is said here without the functions that check it: what the texts look like after
trimming, and which of them may be blank.

- `Checks`: an answer is given exactly under a condition, and every failure is of one kind. Each rule
  and each way to build an integration has one lemma of this form.
- `ValidOptions`, `NamesSchema`, `IntegrationConfig.ValidOn`: the declarations that can be used.
- `Integration.checkedKeys`: the properties that decide whether a declaration can be used.
- **`accepts_valid_declarations`**: an integration is built from the valid declarations. Any other
  fails, and with which kind of failure is decided by the backend and the catalog type alone.
-/

namespace Lakehouse

variable {α β : Type} {kind : FailureKind} {p q : Prop}

/-! ## Checks -/

/-- There is an answer exactly under a condition, and otherwise a failure of one kind. -/
structure Checks (kind : FailureKind) (p : Prop) (answer : Answer α) : Prop where
  exists_ok_iff : (∃ a, answer = .ok a) ↔ p
  kind_eq : ∀ f, answer = .error f → f.kind = kind

theorem checks_ok (hp : p) (a : α) : Checks kind p (.ok a : Answer α) where
  exists_ok_iff := iff_of_true ⟨a, rfl⟩ hp
  kind_eq := by rintro f ⟨⟩

theorem checks_error (hp : ¬ p) {f : Failure} (hkind : f.kind = kind) :
    Checks kind p (.error f : Answer α) where
  exists_ok_iff := by
    refine iff_of_false ?_ hp
    rintro ⟨a, ⟨⟩⟩
  kind_eq := by
    rintro g ⟨⟩
    exact hkind

theorem Checks.congr {answer : Answer α} (h : Checks kind p answer) (hpq : p ↔ q) :
    Checks kind q answer :=
  ⟨h.exists_ok_iff.trans hpq, h.kind_eq⟩

theorem Checks.not_of_error {f : Failure} (h : Checks kind p (.error f : Answer α)) : ¬ p := by
  intro hp
  obtain ⟨a, ⟨⟩⟩ := h.exists_ok_iff.2 hp

theorem Checks.exists_error {answer : Answer α} (h : Checks kind p answer) (hnot : ¬ p) :
    ∃ f, answer = .error f ∧ f.kind = kind := by
  cases answer with
  | ok a => exact absurd (h.exists_ok_iff.1 ⟨a, rfl⟩) hnot
  | error f => exact ⟨f, rfl, h.kind_eq f rfl⟩

theorem Checks.map {answer : Answer α} (h : Checks kind p answer) (g : α → β) :
    Checks kind p (answer.map g) := by
  cases answer with
  | ok a => exact checks_ok (h.exists_ok_iff.1 ⟨a, rfl⟩) (g a)
  | error f => exact checks_error h.not_of_error (h.kind_eq f rfl)

/-- What is checked one after the other is checked together. What is checked second may depend on the
answer to the first. -/
theorem Checks.bind_ok {answer : Answer α} {next : α → Answer β} (h : Checks kind p answer)
    (hnext : ∀ a, answer = .ok a → Checks kind q (next a)) :
    Checks kind (p ∧ q) (answer >>= next) := by
  cases answer with
  | ok a =>
    have hp : p := h.exists_ok_iff.1 ⟨a, rfl⟩
    exact (hnext a rfl).congr (and_iff_right hp).symm
  | error f => exact checks_error (fun hpq => h.not_of_error hpq.1) (h.kind_eq f rfl)

theorem Checks.bind {answer : Answer α} {next : α → Answer β} (h : Checks kind p answer)
    (hnext : ∀ a, Checks kind q (next a)) : Checks kind (p ∧ q) (answer >>= next) :=
  h.bind_ok fun a _ => hnext a

/-- What is not set is not checked. -/
theorem checks_optional {rule : α → Answer β} {p : α → Prop}
    (h : ∀ a, Checks kind (p a) (rule a)) (given : Option α) :
    Checks kind (∀ a, given = some a → p a) (optional rule given) := by
  cases given with
  | none => exact checks_ok (fun a ha => by cases ha) none
  | some a => exact ((h a).map some).congr (by simp)

/-- What is said of a property is said of the declaration. -/
theorem Checks.explain {answer : Answer α} (h : Checks kind p answer) (c : IntegrationConfig) :
    Checks .invalidIntegrationConfig p (c.explain answer) := by
  cases answer with
  | ok a => exact checks_ok (h.exists_ok_iff.1 ⟨a, rfl⟩) a
  | error f => exact checks_error h.not_of_error rfl

/-! ## The rules -/

/-- The text is a word but for the case of ASCII letters and for blanks around it. The word is given
in lower case. -/
def SpelledAs (raw word : String) : Prop :=
  Text.foldAscii (Text.trim raw) = word

instance (raw word : String) : Decidable (SpelledAs raw word) :=
  inferInstanceAs (Decidable (Text.foldAscii (Text.trim raw) = word))

/-- The text is a numeral of a number of days within the limit, but for blanks around it. -/
def SpellsDays (raw : String) : Prop :=
  ∃ n : Int, Decimal.Numeral (Text.trim raw).toList n ∧ 0 ≤ n ∧ n ≤ 90

theorem sameToken_trim_iff {raw token word : String} (htoken : Text.foldAscii token = word) :
    Text.sameToken (Text.trim raw) token = true ↔ SpelledAs raw word := by
  rw [Text.sameToken, htoken, beq_iff_eq, SpelledAs]

theorem checks_trackingToken (kind : FailureKind) (raw : String) :
    Checks kind (SpelledAs raw "true" ∨ SpelledAs raw "false")
      (trackingToken kind (.text raw)) := by
  have htrue : Text.sameToken (Text.trim raw) "true" = true ↔ SpelledAs raw "true" :=
    sameToken_trim_iff (by decide)
  have hfalse : Text.sameToken (Text.trim raw) "false" = true ↔ SpelledAs raw "false" :=
    sameToken_trim_iff (by decide)
  rw [trackingToken]
  split
  · next h => exact checks_ok (.inl (htrue.1 h)) _
  · next hnot =>
    split
    · next h => exact checks_ok (.inr (hfalse.1 h)) _
    · next hneither =>
      refine checks_error ?_ rfl
      rintro (h | h)
      · exact hnot (htrue.2 h)
      · exact hneither (hfalse.2 h)

theorem checks_policy (kind : FailureKind) (raw : String) :
    Checks kind (SpelledAs raw "compatible" ∨ SpelledAs raw "optimized")
      (SerializationPolicy.parse kind raw) := by
  have hcompatible : Text.sameToken (Text.trim raw) SerializationPolicy.compatible.token = true ↔
      SpelledAs raw "compatible" := sameToken_trim_iff (by decide)
  have hoptimized : Text.sameToken (Text.trim raw) SerializationPolicy.optimized.token = true ↔
      SpelledAs raw "optimized" := sameToken_trim_iff (by decide)
  unfold SerializationPolicy.parse
  split
  · next policy hread =>
    have hsame := List.find?_some hread
    cases policy with
    | compatible => exact checks_ok (.inl (hcompatible.1 hsame)) _
    | optimized => exact checks_ok (.inr (hoptimized.1 hsame)) _
  · next hnone =>
    have hnot := List.find?_eq_none.1 hnone
    refine checks_error ?_ rfl
    rintro (h | h)
    · exact hnot .compatible (by decide) (hcompatible.2 h)
    · exact hnot .optimized (by decide) (hoptimized.2 h)

/-- A number of days within the limit is not too long to be read. -/
theorem spellsDays_iff {raw : String} :
    SpellsDays raw ↔ ∃ n, Decimal.signed64? (Text.trim raw) = some n ∧ 0 ≤ n ∧ n ≤ 90 := by
  constructor
  · rintro ⟨n, hnumeral, hleast, hmost⟩
    -- whatever is within the limit is well within a word of 64 bits
    have hleast64 : Decimal.least64 ≤ n := Int.le_trans (by decide) hleast
    have hgreatest64 : n ≤ Decimal.greatest64 := Int.le_trans hmost (by decide)
    have hfits : Decimal.fits64 n = true := by simp [Decimal.fits64, hleast64, hgreatest64]
    exact ⟨n, Decimal.signed64?_eq_some_iff.2 ⟨hnumeral, hfits⟩, hleast, hmost⟩
  · rintro ⟨n, hread, hdays⟩
    exact ⟨n, (Decimal.signed64?_eq_some_iff.1 hread).1, hdays⟩

theorem checks_retentionDays (kind : FailureKind) (key : String) (n : Int) :
    Checks kind (0 ≤ n ∧ n ≤ 90) (retentionDays kind key n) := by
  unfold retentionDays
  split
  · next h => exact checks_ok h _
  · next hnot => exact checks_error hnot rfl

theorem checks_daysProperty (c : IntegrationConfig) (key raw : String) :
    Checks .invalidIntegrationConfig (SpellsDays raw) (c.daysProperty key raw) := by
  unfold IntegrationConfig.daysProperty
  split
  · next hnone =>
    refine checks_error ?_ rfl
    rw [spellsDays_iff, hnone]
    rintro ⟨n, ⟨⟩, -⟩
  · next n hread =>
    refine ((checks_retentionDays _ key n).explain c).congr ?_
    rw [spellsDays_iff, hread]
    simp

/-! ## Options -/

theorem Text.unlessBlank_eq_some_iff {s raw : String} :
    unlessBlank s = some raw ↔ s = raw ∧ trim raw ≠ "" := by
  rw [unlessBlank]
  split
  · next hblank =>
    have hnothing := (isBlankText_iff_trim s).1 hblank
    refine iff_of_false (by simp) ?_
    rintro ⟨rfl, hne⟩
    exact hne hnothing
  · next hnot =>
    have hsomething : trim s ≠ "" := fun h => hnot ((isBlankText_iff_trim s).2 h)
    constructor
    · rintro ⟨⟩
      exact ⟨rfl, hsomething⟩
    · rintro ⟨rfl, -⟩
      rfl

/-- A property that is set is a text that is not blank. -/
theorem IntegrationConfig.property?_eq_some_iff {c : IntegrationConfig} {key raw : String} :
    c.property? key = some raw ↔ c.properties.get? key = some raw ∧ Text.trim raw ≠ "" := by
  rw [IntegrationConfig.property?, Option.bind_eq_some_iff]
  constructor
  · rintro ⟨s, hs, hset⟩
    obtain ⟨rfl, hne⟩ := Text.unlessBlank_eq_some_iff.1 hset
    exact ⟨hs, hne⟩
  · rintro ⟨hs, hne⟩
    exact ⟨raw, hs, Text.unlessBlank_eq_some_iff.2 ⟨rfl, hne⟩⟩

/-- The options of managed tables mean something. A blank text sets no policy and no number of days,
but it is no truth value. -/
structure ValidOptions (properties : NameMap String) : Prop where
  changeTracking : ∀ raw, properties.get? "change_tracking" = some raw →
    SpelledAs raw "true" ∨ SpelledAs raw "false"
  policy : ∀ raw, properties.get? "storage_serialization_policy" = some raw →
    Text.trim raw ≠ "" → SpelledAs raw "compatible" ∨ SpelledAs raw "optimized"
  retention : ∀ raw, properties.get? "data_retention_time_in_days" = some raw →
    Text.trim raw ≠ "" → SpellsDays raw
  extension : ∀ raw, properties.get? "max_data_extension_time_in_days" = some raw →
    Text.trim raw ≠ "" → SpellsDays raw

/-- The schema that tables are registered in is named. -/
def NamesSchema (properties : NameMap String) : Prop :=
  ∃ raw, properties.get? "external_schema" = some raw ∧ Text.trim raw ≠ ""

/-- A condition on a property that is set, in terms of the text that is declared. -/
theorem forall_property?_iff {c : IntegrationConfig} {key : String} {p : String → Prop} :
    (∀ raw, c.property? key = some raw → p raw) ↔
      ∀ raw, c.properties.get? key = some raw → Text.trim raw ≠ "" → p raw := by
  simp only [IntegrationConfig.property?_eq_some_iff, and_imp]

theorem checks_managedOptions (c : IntegrationConfig) :
    Checks .invalidIntegrationConfig (ValidOptions c.properties) (ManagedOptions.ofConfig c) := by
  have htracking := (checks_optional (checks_trackingToken .invalidIntegrationConfig)
    (c.properties.get? "change_tracking")).explain c
  have hpolicy := ((checks_optional (checks_policy .invalidIntegrationConfig)
    (c.property? "storage_serialization_policy")).explain c).congr forall_property?_iff
  -- both numbers of days are understood alike, under two names
  have hdays := fun key =>
    (checks_optional (checks_daysProperty c key) (c.property? key)).congr forall_property?_iff
  refine (htracking.bind fun tracking => hpolicy.bind fun policy =>
    (hdays "data_retention_time_in_days").bind fun retention =>
    (hdays "max_data_extension_time_in_days").bind fun extension => checks_ok trivial _).congr ?_
  constructor
  · rintro ⟨htracking, hpolicy, hretention, hextension, -⟩
    exact ⟨htracking, hpolicy, hretention, hextension⟩
  · intro h
    exact ⟨h.changeTracking, h.policy, h.retention, h.extension, trivial⟩

theorem checks_glueOptions (c : IntegrationConfig) :
    Checks .invalidIntegrationConfig (NamesSchema c.properties) (GlueOptions.ofConfig c) := by
  unfold GlueOptions.ofConfig
  split
  · next hnone =>
    refine checks_error ?_ rfl
    rintro ⟨raw, hset⟩
    rw [IntegrationConfig.property?_eq_some_iff.2 hset] at hnone
    cases hnone
  · next raw hset => exact checks_ok ⟨raw, IntegrationConfig.property?_eq_some_iff.1 hset⟩ _

/-! ## Declarations -/

/-- A declaration that a backend can use.

- `writes`: only tables of an external catalog may be declared for reading.
- `managed`, `registered`, `read`: what a catalog type asks for besides. -/
structure IntegrationConfig.ValidOn (b : Backend) (c : IntegrationConfig) : Prop where
  supported : c.catalogType ∈ b.supportedTypes
  writes : c.allowsWrites = true ∨ c.catalogType = .icebergRest ∨ c.catalogType = .awsGlue
  managed : c.catalogType = .builtIn ∨ c.catalogType = .biglakeMetastore →
    ValidOptions c.properties
  registered : c.catalogType = .glue → NamesSchema c.properties
  read : c.catalogType = .icebergRest ∨ c.catalogType = .awsGlue →
    c.tableFormat = none ∨ c.tableFormat = some .iceberg

namespace Integration

variable {b : Backend} {c : IntegrationConfig}

theorem checks_internal (htype : c.catalogType = .infoSchema) :
    Checks .invalidIntegrationConfig True (internal c) := by
  rw [internal, htype]
  exact checks_ok trivial _

theorem checks_managed (htype : c.catalogType = .builtIn ∨ c.catalogType = .biglakeMetastore) :
    Checks .invalidIntegrationConfig (ValidOptions c.properties) (managed c) := by
  obtain ⟨location, hlocation⟩ : ∃ location, managedLocation? c.catalogType = some location := by
    obtain h | h := htype <;> exact h ▸ ⟨_, rfl⟩
  rw [managed, hlocation]
  exact (checks_managedOptions c).map _

theorem checks_glue (htype : c.catalogType = .glue) :
    Checks .invalidIntegrationConfig (NamesSchema c.properties) (glue c) := by
  rw [glue, htype]
  exact (checks_glueOptions c).map _

theorem checks_readOnly (htype : c.catalogType = .icebergRest ∨ c.catalogType = .awsGlue) :
    Checks .invalidIntegrationConfig (c.tableFormat = none ∨ c.tableFormat = some .iceberg)
      (readOnly c) := by
  have hknown : readOnlyTypes.contains c.catalogType = true := by
    obtain h | h := htype <;> rw [h] <;> rfl
  rw [readOnly, if_pos hknown]
  cases hformat : c.tableFormat with
  | none => exact checks_ok (.inl rfl) _
  | some format =>
    cases format with
    | default => exact checks_error (by simp) rfl
    | iceberg => exact checks_ok (.inr rfl) _

theorem onBackend_of_unsupported (hunsupported : c.catalogType ∉ b.supportedTypes) :
    onBackend b c = .error (unsupported b c) := by
  have hunknown : b.supports c.catalogType = false := by simpa [Backend.supports] using hunsupported
  rw [onBackend, hunknown]
  rfl

/-- How an integration is built once the backend knows the catalog type and the right to write goes
with it. -/
theorem onBackend_eq (hsupported : c.catalogType ∈ b.supportedTypes)
    (hwrites : c.allowsWrites = true ∨ c.catalogType.behaviour = .externalReadOnly) :
    onBackend b c =
      match c.catalogType.behaviour with
      | .internal => internal c
      | .managedExternal => managed c
      | .externalWritable => glue c
      | .externalReadOnly => readOnly c := by
  have hknown : b.supports c.catalogType = true := by simpa [Backend.supports] using hsupported
  have hallowed : (!c.allowsWrites && c.catalogType.behaviour != .externalReadOnly) = false := by
    obtain h | h := hwrites <;> rw [h] <;> simp
  rw [onBackend, hknown]
  simp only [hallowed]
  rfl

theorem onBackend_of_forbidden (hsupported : c.catalogType ∈ b.supportedTypes)
    (hforbidden : c.allowsWrites = false ∧ c.catalogType.behaviour ≠ .externalReadOnly) :
    onBackend b c = .error (notForReading c) := by
  have hknown : b.supports c.catalogType = true := by simpa [Backend.supports] using hsupported
  have hrefused : (!c.allowsWrites && c.catalogType.behaviour != .externalReadOnly) = true := by
    simpa using hforbidden
  rw [onBackend, hknown]
  simp only [hrefused]
  rfl

/-- The declaration of a catalog type that the backend knows is checked. -/
theorem checks_onBackend (hsupported : c.catalogType ∈ b.supportedTypes) :
    Checks .invalidIntegrationConfig (c.ValidOn b) (onBackend b c) := by
  by_cases hwrites : c.allowsWrites = true ∨ c.catalogType = .icebergRest ∨ c.catalogType = .awsGlue
  · rw [onBackend_eq hsupported (hwrites.imp_right behaviour_eq_externalReadOnly_iff.2)]
    -- the conditions of the other catalog types say nothing
    cases htype : c.catalogType with
    | infoSchema =>
      refine (checks_internal htype).congr (iff_of_true trivial ?_)
      exact ⟨hsupported, hwrites, by simp [htype], by simp [htype], by simp [htype]⟩
    | builtIn =>
      refine (checks_managed (.inl htype)).congr ⟨fun h => ?_, fun h => h.managed (.inl htype)⟩
      exact ⟨hsupported, hwrites, fun _ => h, by simp [htype], by simp [htype]⟩
    | biglakeMetastore =>
      refine (checks_managed (.inr htype)).congr ⟨fun h => ?_, fun h => h.managed (.inr htype)⟩
      exact ⟨hsupported, hwrites, fun _ => h, by simp [htype], by simp [htype]⟩
    | glue =>
      refine (checks_glue htype).congr ⟨fun h => ?_, fun h => h.registered htype⟩
      exact ⟨hsupported, hwrites, by simp [htype], fun _ => h, by simp [htype]⟩
    | icebergRest =>
      refine (checks_readOnly (.inl htype)).congr ⟨fun h => ?_, fun h => h.read (.inl htype)⟩
      exact ⟨hsupported, hwrites, by simp [htype], by simp [htype], fun _ => h⟩
    | awsGlue =>
      refine (checks_readOnly (.inr htype)).congr ⟨fun h => ?_, fun h => h.read (.inr htype)⟩
      exact ⟨hsupported, hwrites, by simp [htype], by simp [htype], fun _ => h⟩
  · have hforbidden : c.allowsWrites = false ∧ c.catalogType.behaviour ≠ .externalReadOnly := by
      rw [not_or, ← behaviour_eq_externalReadOnly_iff] at hwrites
      simpa using hwrites
    rw [onBackend_of_forbidden hsupported hforbidden]
    exact checks_error (fun h => hwrites h.writes) rfl

/-! ## Properties that are not checked -/

/-- An answer without what is answered: that there is one, or the failure. -/
def outcome (answer : Answer α) : Answer Unit :=
  answer.map fun _ => ()

theorem outcome_pure (a : α) : outcome (pure a : Answer α) = .ok () := rfl

theorem outcome_map (answer : Answer α) (g : α → β) : outcome (answer.map g) = outcome answer := by
  cases answer <;> rfl

theorem outcome_bind (answer : Answer α) (next : α → Answer β) :
    outcome (answer >>= next) = answer >>= fun a => outcome (next a) := by
  cases answer <;> rfl

/-- The properties of managed tables that are checked. -/
def managedKeys : List String :=
  ["change_tracking", "storage_serialization_policy", "data_retention_time_in_days",
    "max_data_extension_time_in_days"]

/-- The properties that decide whether a declaration of a catalog type is valid. -/
def checkedKeys (t : CatalogType) : List String :=
  match t.behaviour with
  | .managedExternal => managedKeys
  | .externalWritable => ["external_schema"]
  | .internal | .externalReadOnly => []

variable {properties : NameMap String}

section Congruence

variable {c' : IntegrationConfig} (hname : c'.name = c.name)

include hname

/-- What is said of a property names the integration, and nothing else of its declaration. -/
theorem explain_congr (answer : Answer α) : c'.explain answer = c.explain answer := by
  cases answer with
  | ok a => rfl
  | error f => simp only [IntegrationConfig.explain, IntegrationConfig.invalid, hname]

theorem daysProperty_congr (key : String) : c'.daysProperty key = c.daysProperty key := by
  funext raw
  simp only [IntegrationConfig.daysProperty, IntegrationConfig.invalid, hname, explain_congr hname]

theorem managedOptions_congr (hproperties : c'.properties = c.properties) :
    ManagedOptions.ofConfig c' = ManagedOptions.ofConfig c := by
  have hproperty (key : String) : c'.property? key = c.property? key := by
    rw [IntegrationConfig.property?, hproperties, IntegrationConfig.property?]
  simp only [ManagedOptions.ofConfig, explain_congr hname, daysProperty_congr hname, hproperty,
    hproperties]

end Congruence

theorem explain_with (answer : Answer α) :
    { c with properties }.explain answer = c.explain answer :=
  explain_congr rfl answer

theorem daysProperty_with (key : String) :
    { c with properties }.daysProperty key = c.daysProperty key :=
  daysProperty_congr rfl key

theorem property?_with {key : String} (h : properties.get? key = c.properties.get? key) :
    { c with properties }.property? key = c.property? key := by
  rw [IntegrationConfig.property?, h]
  rfl

theorem outcome_internal_with :
    outcome (internal { c with properties }) = outcome (internal c) := by
  unfold internal
  split <;> rfl

theorem outcome_managed_with
    (h : ∀ key ∈ managedKeys, properties.get? key = c.properties.get? key) :
    outcome (managed { c with properties }) = outcome (managed c) := by
  have htracking := h "change_tracking" (by simp [managedKeys])
  have hpolicy := property?_with (h "storage_serialization_policy" (by simp [managedKeys]))
  have hretention := property?_with (h "data_retention_time_in_days" (by simp [managedKeys]))
  have hextension := property?_with (h "max_data_extension_time_in_days" (by simp [managedKeys]))
  have hoptions : outcome (ManagedOptions.ofConfig { c with properties }) =
      outcome (ManagedOptions.ofConfig c) := by
    simp only [ManagedOptions.ofConfig, outcome_bind, outcome_pure, explain_with,
      daysProperty_with, htracking, hpolicy, hretention, hextension]
  unfold managed
  dsimp only
  split
  · rfl
  · rw [outcome_map, outcome_map, hoptions]

theorem outcome_glue_with
    (h : properties.get? "external_schema" = c.properties.get? "external_schema") :
    outcome (glue { c with properties }) = outcome (glue c) := by
  have hschema := property?_with h
  have hoptions :
      outcome (GlueOptions.ofConfig { c with properties }) = outcome (GlueOptions.ofConfig c) := by
    simp only [GlueOptions.ofConfig, hschema]
    split <;> rfl
  unfold glue
  dsimp only
  split
  · rw [outcome_map, outcome_map, hoptions]
  · rfl

theorem outcome_readOnly_with :
    outcome (readOnly { c with properties }) = outcome (readOnly c) := by
  unfold readOnly
  dsimp only
  split
  · split <;> rfl
  · rfl

/-- Other properties than those that are checked make no difference. -/
theorem outcome_onBackend_with
    (h : ∀ key ∈ checkedKeys c.catalogType, properties.get? key = c.properties.get? key) :
    outcome (onBackend b { c with properties }) = outcome (onBackend b c) := by
  unfold checkedKeys at h
  unfold onBackend
  dsimp only
  -- no property is looked at before the backend and the right to write are
  split
  · rfl
  split
  · rfl
  cases hbehaviour : c.catalogType.behaviour with
  | internal => exact outcome_internal_with
  | managedExternal =>
    rw [hbehaviour] at h
    exact outcome_managed_with h
  | externalWritable =>
    rw [hbehaviour] at h
    exact outcome_glue_with (h "external_schema" (by simp))
  | externalReadOnly => exact outcome_readOnly_with

/-! ## The judgement -/

/-- What a backend makes of a declaration.

- `exists_ok_iff`: an integration exactly if it is valid.
- `kind_eq`: otherwise a failure of one of two kinds, by the catalog type.
- `unchecked`: which of these, and with which message, is up to the checked properties. -/
structure Judged (b : Backend) (c : IntegrationConfig) : Prop where
  exists_ok_iff : (∃ i, onBackend b c = .ok i) ↔ c.ValidOn b
  kind_eq : ∀ f, onBackend b c = .error f →
    f.kind = if c.catalogType ∈ b.supportedTypes then .invalidIntegrationConfig else .notSupported
  unchecked : ∀ properties : NameMap String,
    (∀ key ∈ checkedKeys c.catalogType, properties.get? key = c.properties.get? key) →
      outcome (onBackend b { c with properties }) = outcome (onBackend b c)

/-- A declaration that is not valid fails. -/
theorem Judged.exists_error (h : Judged b c) (hnot : ¬ c.ValidOn b) :
    ∃ f, onBackend b c = .error f ∧
      f.kind =
        if c.catalogType ∈ b.supportedTypes then .invalidIntegrationConfig else .notSupported := by
  cases hanswer : onBackend b c with
  | ok i => exact absurd (h.exists_ok_iff.1 ⟨i, hanswer⟩) hnot
  | error f => exact ⟨f, rfl, h.kind_eq f hanswer⟩

/-- **An integration is built from exactly the valid declarations**, on any backend. -/
theorem accepts_valid_declarations (b : Backend) (c : IntegrationConfig) : Judged b c := by
  by_cases hsupported : c.catalogType ∈ b.supportedTypes
  · have hchecks := checks_onBackend hsupported
    refine ⟨hchecks.exists_ok_iff, fun f hf => ?_, fun properties => outcome_onBackend_with⟩
    rw [if_pos hsupported]
    exact hchecks.kind_eq f hf
  · have hfails := onBackend_of_unsupported hsupported
    refine ⟨?_, fun f hf => ?_, fun properties => outcome_onBackend_with⟩
    · rw [hfails]
      refine iff_of_false ?_ fun h => hsupported h.supported
      rintro ⟨i, ⟨⟩⟩
    · rw [if_neg hsupported]
      rw [hfails] at hf
      cases hf
      rfl

/-- A declaration with blanks, a sign and a leading zero in its texts, and with a property that means
nothing. -/
def looselySpelled : IntegrationConfig :=
  { IntegrationConfig.plain "lake" .builtIn with
    properties := .ofList [("change_tracking", " TRUE\t"), ("data_retention_time_in_days", "+090 "),
      ("storage_serialization_policy", "  "), ("owner", "unknown")] }

theorem validOptions_looselySpelled : ValidOptions looselySpelled.properties where
  changeTracking := by
    intro raw hraw
    have hset : looselySpelled.properties.get? "change_tracking" = some " TRUE\t" := by decide
    obtain rfl := Option.some.inj (hset.symm.trans hraw)
    exact .inl (by decide)
  policy := by
    intro raw hraw hne
    have hset : looselySpelled.properties.get? "storage_serialization_policy" = some "  " := by
      decide
    obtain rfl := Option.some.inj (hset.symm.trans hraw)
    exact absurd (by decide) hne
  retention := by
    intro raw hraw _
    have hset : looselySpelled.properties.get? "data_retention_time_in_days" = some "+090 " := by
      decide
    obtain rfl := Option.some.inj (hset.symm.trans hraw)
    have htrim : (Text.trim "+090 ").toList = ['+', '0', '9', '0'] := by decide
    have hnumeral : Decimal.Numeral ['+', '0', '9', '0'] 90 := .plus ⟨by simp, by simp⟩
    exact ⟨90, htrim ▸ hnumeral, by decide, by decide⟩
  extension := by
    intro raw hraw
    have hunset : looselySpelled.properties.get? "max_data_extension_time_in_days" = none := by
      decide
    rw [hunset] at hraw
    cases hraw

/-- The same declaration with a blank text for the truth value. -/
def blankTracking : IntegrationConfig :=
  { looselySpelled with properties := looselySpelled.properties.insert "change_tracking" " " }

theorem not_validOptions_blankTracking : ¬ ValidOptions blankTracking.properties := by
  intro h
  have hneither : ¬ (SpelledAs " " "true" ∨ SpelledAs " " "false") := by decide
  exact hneither (h.changeTracking " " (NameMap.get?_insert_self _ _ _))

/-- One backend builds the integration and another does not know tables of this kind; a blank is no
truth value, and what the property that means nothing says makes no difference. -/
theorem accepts_valid_declarations_looselySpelled :
    looselySpelled.ValidOn .snowflake ∧
      (∃ i, onBackend .snowflake looselySpelled = .ok i) ∧
      (∃ f, onBackend .athena looselySpelled = .error f ∧ f.kind = .notSupported) ∧
      (∃ f, onBackend .snowflake blankTracking = .error f ∧ f.kind = .invalidIntegrationConfig) ∧
      outcome (onBackend .snowflake
        { looselySpelled with properties := looselySpelled.properties.insert "owner" "" }) =
          outcome (onBackend .snowflake looselySpelled) := by
  have hsnowflake := accepts_valid_declarations .snowflake looselySpelled
  have hathena := accepts_valid_declarations .athena looselySpelled
  have hblank := accepts_valid_declarations .snowflake blankTracking
  have hvalid : looselySpelled.ValidOn .snowflake :=
    { supported := by decide
      writes := .inl rfl
      managed := fun _ => validOptions_looselySpelled
      registered := by rintro ⟨⟩
      read := by decide }
  refine ⟨hvalid, hsnowflake.exists_ok_iff.2 hvalid, ?_, ?_, ?_⟩
  · refine hathena.exists_error fun h => ?_
    exact absurd h.supported (by decide)
  · refine hblank.exists_error fun h => ?_
    exact not_validOptions_blankTracking (h.managed (.inl rfl))
  · refine hsnowflake.unchecked _ fun key hkey => NameMap.get?_insert_of_ne _ _ ?_
    rintro rfl
    exact absurd hkey (by decide)

end Integration

end Lakehouse
