import Lakehouse.Proofs.Integration.Levels
import Lakehouse.Proofs.Template.Rendered

/-!
# Options that are not set

There are many ways not to set an option of a model: its key is left out, what is stated under it is
undefined or null, or it is a text that says nothing. A model is read alike whichever way is taken, so
that the next level decides. The flag is the exception: whatever is stated under its key counts, and is
refused if it is no truth value.

- `StatesNothing`, `SetsNothing`: the ways not to say anything, and those not to set an option.
- `Model.StatesAlike`: two template values that differ only in the ways in which they do not set options.
- `Integration.FallsBack`: what a relation has where the model does not set an option.
- **`unset_options_are_interchangeable`**: whatever a model leaves unset, and in whatever way.
-/

namespace Lakehouse

/-! ## Saying nothing -/

/-- What is stated under a key, if anything is. -/
def TemplateValue.stated? (v : TemplateValue) (key : String) : Option TemplateValue :=
  lookupName key v.entries

/-- Nothing is said: the key is left out, or what is stated under it is undefined or null. -/
inductive StatesNothing : Option TemplateValue → Prop
  | absent : StatesNothing none
  | undefined : StatesNothing (some .undefined)
  | null : StatesNothing (some .null)

/-- An option is not set: nothing is said, or it is a text of blanks, or the word `none` in any case and
with blanks around it. -/
inductive SetsNothing : Option TemplateValue → Prop
  | unsaid {stated : Option TemplateValue} (h : StatesNothing stated) : SetsNothing stated
  | blank {v : TemplateValue} {s : String} (htext : v.text? = some s) (h : Text.trim s = "") :
      SetsNothing (some v)
  | word {v : TemplateValue} {s : String} (htext : v.text? = some s) (h : SpelledAs s "none") :
      SetsNothing (some v)

theorem TemplateValue.isDefined_of_text? {v : TemplateValue} {s : String} (h : v.text? = some s) :
    v.isDefined = true := by
  cases v with
  | undefined | null => cases h
  | _ => rfl

namespace Model

/-- The keys under which the options of a model are stated. -/
def keys : List String :=
  ["database", "schema", "identifier", "alias", "catalog_name", "catalog", "table_format",
    "file_format", "external_volume", "storage_uri", "base_location_root", "base_location_subpath",
    "partition_by", "external_schema", "change_tracking", "storage_serialization_policy",
    "data_retention_time_in_days", "max_data_extension_time_in_days"]

/-- The keys that have an older name. -/
def renamed : List (String × String) :=
  [("identifier", "alias"), ("catalog_name", "catalog")]

variable {v v' : TemplateValue} {m : Model} {key older : String}

theorem defined?_eq (v : TemplateValue) (key : String) :
    defined? v key = (v.stated? key).filter (·.isDefined) := by
  rw [defined?, TemplateValue.member_eq, TemplateValue.stated?]
  cases lookupName key v.entries with
  | none => rfl
  | some w => rfl

theorem defined?_eq_none_iff : defined? v key = none ↔ StatesNothing (v.stated? key) := by
  rw [defined?_eq]
  constructor
  · intro h
    cases hstated : v.stated? key with
    | none => exact .absent
    | some w =>
      rw [hstated] at h
      cases w with
      | undefined => exact .undefined
      | null => exact .null
      | _ => cases h
  · intro h
    generalize v.stated? key = stated at h
    cases h <;> rfl

/-- An option is not set by what is no value or says nothing as a text. -/
theorem unset_cases (h : SetsNothing (v.stated? key)) : defined? v key = none ∨
    ∃ w s, defined? v key = some w ∧ w.text? = some s ∧ unlessUnset (Text.trim s) = none := by
  have hdefined {w : TemplateValue} {s : String} (hstated : v.stated? key = some w)
      (htext : w.text? = some s) : defined? v key = some w := by
    rw [defined?_eq, hstated, Option.filter_some, if_pos (TemplateValue.isDefined_of_text? htext)]
  generalize hstated : v.stated? key = stated at h
  cases h with
  | unsaid h => exact .inl (defined?_eq_none_iff.2 (hstated ▸ h))
  | blank htext h => exact .inr ⟨_, _, hdefined hstated htext, htext, if_pos (.inl h)⟩
  | word htext h =>
    exact .inr ⟨_, _, hdefined hstated htext, htext, if_pos (.inr ((sameToken_trim_iff rfl).2 h))⟩

section Unset

variable (h : SetsNothing (v.stated? key))

include h

theorem textOption_of_unset : textOption v key = none := by
  rcases unset_cases h with hnone | ⟨w, s, hw, htext, hunset⟩
  · rw [textOption, hnone, Option.bind_none]
  · rw [textOption, hw, Option.bind_some, textOf, htext]
    exact hunset

theorem listOption_of_unset : listOption v key = none := by
  rcases unset_cases h with hnone | ⟨w, s, hw, htext, -⟩
  · rw [listOption, hnone, Option.bind_none]
  · rw [listOption, hw, Option.bind_some, textOption_of_unset h]
    cases w with
    | list items => cases htext
    | _ => rfl

theorem integerOption_of_unset : integerOption v key = .ok none := by
  rcases unset_cases h with hnone | ⟨w, s, hw, htext, hunset⟩
  · rw [integerOption, hnone]
  · have hword : w.toWord? = none := by
      cases w with
      | text s => rfl
      | bytes bs => rfl
      | _ => cases htext
    simp only [integerOption, hw, hword, htext, hunset]

end Unset

/-! ## Models that are read alike -/

/-- The same is stated under a key, or the option is not set by either value. -/
def AlikeUnder (v v' : TemplateValue) (key : String) : Prop :=
  v'.stated? key = v.stated? key ∨ SetsNothing (v.stated? key) ∧ SetsNothing (v'.stated? key)

/-- Two template values that differ in the ways in which they do not set options, and in what is no
option. Of the flag, only saying nothing is a way not to set it. -/
structure StatesAlike (v v' : TemplateValue) : Prop where
  options : ∀ key ∈ keys, key ≠ "change_tracking" → AlikeUnder v v' key
  flag : v'.stated? "change_tracking" = v.stated? "change_tracking" ∨
    StatesNothing (v.stated? "change_tracking") ∧ StatesNothing (v'.stated? "change_tracking")

theorem defined?_congr (h : v'.stated? key = v.stated? key) : defined? v' key = defined? v key := by
  rw [defined?_eq, defined?_eq, h]

section AlikeUnder

variable (h : AlikeUnder v v' key)

include h

theorem textOption_congr : textOption v' key = textOption v key := by
  rcases h with h | ⟨h, h'⟩
  · rw [textOption, textOption, defined?_congr h]
  · rw [textOption_of_unset h, textOption_of_unset h']

theorem listOption_congr : listOption v' key = listOption v key := by
  have htext := textOption_congr h
  rcases h with h | ⟨h, h'⟩
  · rw [listOption, listOption, defined?_congr h, htext]
  · rw [listOption_of_unset h, listOption_of_unset h']

theorem integerOption_congr : integerOption v' key = integerOption v key := by
  rcases h with h | ⟨h, h'⟩
  · rw [integerOption, integerOption, defined?_congr h]
  · rw [integerOption_of_unset h, integerOption_of_unset h']

end AlikeUnder

/-- Values that differ in nothing else are read as the same model, or fail alike. -/
theorem StatesAlike.ofTemplate_eq (h : StatesAlike v v') : ofTemplate v' = ofTemplate v := by
  have htext (key : String) (hkey : key ∈ keys ∧ key ≠ "change_tracking") :
      textOption v' key = textOption v key := textOption_congr (h.options key hkey.1 hkey.2)
  have hlist : listOption v' "partition_by" = listOption v "partition_by" :=
    listOption_congr (h.options _ (by decide) (by decide))
  have hinteger (key : String) (hkey : key ∈ keys ∧ key ≠ "change_tracking") :
      integerOption v' key = integerOption v key := integerOption_congr (h.options key hkey.1 hkey.2)
  have hflag : flagOption v' "change_tracking" = flagOption v "change_tracking" := by
    rcases h.flag with h | ⟨h, h'⟩
    · rw [flagOption, flagOption, defined?_congr h]
    · rw [flagOption, flagOption, defined?_eq_none_iff.2 h, defined?_eq_none_iff.2 h']
  simp (disch := decide) only [ofTemplate, renamedOption, htext, hlist, hinteger, hflag]

/-- Where an option is not set under its name, its older name means what the name itself would. -/
theorem ofTemplate_renamed (hkey : (key, older) ∈ renamed) (h : SetsNothing (v.stated? key)) :
    ofTemplate v = ofTemplate (v.stating key (v.member older)) := by
  have hmoved (hne : older ≠ key) : renamedOption v key older =
      renamedOption (v.stating key (v.member older)) key older := by
    have hself : textOption (v.stating key (v.member older)) key = textOption v older := by
      rw [textOption, textOption, defined?, defined?, TemplateValue.member_stating_self]
    rw [renamedOption, renamedOption, hself, textOption_of_unset h, textOption_stating_of_ne hne,
      Option.none_or, Option.or_self]
  rw [renamed, List.mem_pair, Prod.mk.injEq, Prod.mk.injEq] at hkey
  rcases hkey with ⟨rfl, rfl⟩ | ⟨rfl, rfl⟩
  -- no other option is read from either key
  all_goals simp (disch := decide) only [ofTemplate, hmoved, textOption_stating_of_ne,
    renamedOption_stating_of_ne, listOption_stating_of_ne, flagOption_stating_of_ne,
    integerOption_stating_of_ne]

/-! ## The flag -/

/-- The flag of a model is not set exactly if nothing is said under its key. -/
theorem changeTracking_eq_none_iff (h : ofTemplate v = .ok m) :
    m.changeTracking = none ↔ StatesNothing (v.stated? "change_tracking") := by
  obtain ⟨retention, extension, -, -, rfl⟩ := eq_of_ofTemplate h
  rw [← defined?_eq_none_iff]
  exact Option.map_eq_none_iff

/-- What is stated as a flag and is neither a truth value nor a text that spells one. -/
structure NoTruthValue (v : TemplateValue) : Prop where
  isDefined : v.isDefined = true
  ne_bool : ∀ b, v ≠ .bool b
  text : ∀ s, v.text? = some s → ¬ SpelledAs s "true" ∧ ¬ SpelledAs s "false"

theorem NoTruthValue.rawTextOf (h : NoTruthValue v) :
    ¬ SpelledAs (rawTextOf v) "true" ∧ ¬ SpelledAs (rawTextOf v) "false" := by
  rw [Model.rawTextOf]
  cases htext : v.text? with
  | some s => exact h.text s htext
  | none =>
    -- what is no text is kept as it is shown, and that is never a word
    exact ⟨TemplateValue.not_spelledAs_rendered h.isDefined htext h.ne_bool (by decide) (by decide)
        (by decide),
      TemplateValue.not_spelledAs_rendered h.isDefined htext h.ne_bool (by decide) (by decide)
        (by decide)⟩

/-- A flag that means nothing is none that a managed table accepts. -/
theorem NoTruthValue.not_validOverrides {flag : TemplateValue} (hflag : NoTruthValue flag)
    (hstated : v.stated? "change_tracking" = some flag) (h : ofTemplate v = .ok m) :
    ¬ m.ValidOverrides := by
  intro hvalid
  obtain ⟨retention, extension, -, -, rfl⟩ := eq_of_ofTemplate h
  have hread : flagOption v "change_tracking" = some (.text (Model.rawTextOf flag)) := by
    rw [flagOption, defined?_eq, hstated, Option.filter_some, if_pos hflag.isDefined]
    cases flag with
    | bool b => exact absurd rfl (hflag.ne_bool b)
    | _ => rfl
  rcases hvalid.changeTracking _ hread with htrue | hfalse
  · exact hflag.rawTextOf.1 htrue
  · exact hflag.rawTextOf.2 hfalse

end Model

/-! ## The next level -/

namespace Integration

variable {b : Backend} {c : IntegrationConfig} {i : Integration} {v : TemplateValue} {m : Model}
  {r : StorageRelation}

/-- What a managed table has where the model does not set an option: what the integration declares, if
it declares anything. Without an address of its own the table lies at its base location. -/
structure ManagedFallsBack (c : IntegrationConfig) (v : TemplateValue) (r : StorageRelation) :
    Prop where
  location : ∀ base, r.baseLocation = some base → ∃ root schema identifier subpath,
    base = "/".intercalate (effectiveRoot root ::
      ([schema, identifier, subpath.getD ""].map Text.trim).filter (· ≠ "")) ∧
    (SetsNothing (v.stated? "base_location_root") → root = c.property? "base_location_root") ∧
    (SetsNothing (v.stated? "base_location_subpath") → subpath = c.property? "base_location_subpath")
  builtIn : SetsNothing (v.stated? "storage_uri") → c.catalogType = .builtIn →
    r.storageUri = r.baseLocation
  prefixed : SetsNothing (v.stated? "storage_uri") → c.catalogType = .biglakeMetastore →
    ∃ base, r.baseLocation = some base ∧
      r.storageUri = r.externalVolume.map fun volume => Text.dropSlashesRight volume ++ "/" ++ base
  policy : SetsNothing (v.stated? "storage_serialization_policy") → ∃ policy,
    optional (SerializationPolicy.parse .invalidIntegrationConfig)
        (c.property? "storage_serialization_policy") = .ok policy ∧
      r.serializationPolicy = policy.map (·.token)
  retention : SetsNothing (v.stated? "data_retention_time_in_days") →
    optional (c.daysProperty "data_retention_time_in_days")
      (c.property? "data_retention_time_in_days") = .ok r.dataRetentionDays
  extension : SetsNothing (v.stated? "max_data_extension_time_in_days") →
    optional (c.daysProperty "max_data_extension_time_in_days")
      (c.property? "max_data_extension_time_in_days") = .ok r.maxExtensionDays
  changeTracking : StatesNothing (v.stated? "change_tracking") →
    optional (fun raw => trackingToken .invalidIntegrationConfig (.text raw))
      (c.properties.get? "change_tracking") = .ok r.changeTracking

/-- What a registered table has where the model does not set an option. Without an address of its own
the table lies under its volume, if there is one. -/
structure GlueFallsBack (c : IntegrationConfig) (v : TemplateValue) (r : StorageRelation) : Prop where
  nowhere : SetsNothing (v.stated? "storage_uri") → r.externalVolume = none → r.storageUri = none
  derived : SetsNothing (v.stated? "storage_uri") → ∀ volume, r.externalVolume = some volume →
    ∃ schema identifier, r.storageUri =
      some (Text.dropSlashesRight volume ++ "/" ++ schema ++ "/" ++ identifier ++ "/")
  externalSchema : SetsNothing (v.stated? "external_schema") →
    r.externalSchema = (c.property? "external_schema").map Text.trim
  partitionBy : SetsNothing (v.stated? "partition_by") → r.partitionBy = none

/-- What a relation has where the model does not set an option: what the integration declares, or the
default of the catalog type. -/
structure FallsBack (c : IntegrationConfig) (v : TemplateValue) (r : StorageRelation) : Prop where
  tableFormat : SetsNothing (v.stated? "table_format") →
    r.tableFormat = c.tableFormat.getD c.catalogType.defaultTableFormat
  fileFormat : SetsNothing (v.stated? "file_format") →
    r.fileFormat = c.fileFormat.getD c.catalogType.defaultFileFormat
  externalVolume : SetsNothing (v.stated? "external_volume") → r.externalVolume = c.externalVolume
  managed : c.catalogType.behaviour = .managedExternal → ManagedFallsBack c v r
  glue : c.catalogType.behaviour = .externalWritable → GlueFallsBack c v r
  internal : c.catalogType.behaviour = .internal → SetsNothing (v.stated? "storage_uri") →
    r.storageUri = none

/-- A setting that is not there leaves the other one. -/
theorem firstSet_none_iff {α β γ : Type} {own : α → Answer γ} {declared : β → Answer γ} {b : Option β}
    {value : Option γ} : FirstSet own declared none b value ↔ optional declared b = .ok value := by
  constructor
  · rintro (_ | h | _)
    · rw [optional, h]
      rfl
    · rfl
  · intro h
    cases b with
    | none =>
      obtain rfl := Except.ok.inj h
      exact .unset
    | some b =>
      obtain ⟨a, ha, rfl⟩ := exists_of_map_ok h
      exact .declared ha

theorem optional_ok {α : Type} (given : Option α) : optional .ok given = .ok given := by
  cases given <;> rfl

theorem ManagedFields.fallsBack (h : ManagedFields c m r) (hm : Model.ofTemplate v = .ok m) :
    ManagedFallsBack c v r := by
  obtain ⟨retention, extension, hretention, hextension, rfl⟩ := Model.eq_of_ofTemplate hm
  refine
    { location := fun base hbase => ?_
      builtIn := fun hunset => h.builtIn (Model.textOption_of_unset hunset)
      prefixed := fun hunset => h.prefixed (Model.textOption_of_unset hunset)
      policy := fun hunset => ?_
      retention := fun hunset => ?_
      extension := fun hunset => ?_
      changeTracking := fun hunset => ?_ }
  · cases hschema : Model.textOption v "schema" with
    | none => rw [(h.nowhere (.inl hschema)).1] at hbase; cases hbase
    | some schema =>
      cases hidentifier : Model.renamedOption v "identifier" "alias" with
      | none => rw [(h.nowhere (.inr hidentifier)).1] at hbase; cases hbase
      | some identifier =>
        rw [h.location schema identifier hschema hidentifier] at hbase
        refine ⟨_, schema, identifier, _, (Option.some.inj hbase).symm, fun hunset => ?_,
          fun hunset => ?_⟩
        · rw [Model.textOption_of_unset hunset, Option.none_or]
        · rw [Model.textOption_of_unset hunset, Option.none_or]
  · obtain ⟨policy, hpolicy, hshown⟩ := h.policy
    rw [Model.textOption_of_unset hunset, firstSet_none_iff] at hpolicy
    exact ⟨policy, hpolicy, hshown⟩
  · obtain rfl := Except.ok.inj ((Model.integerOption_of_unset hunset).symm.trans hretention)
    exact firstSet_none_iff.1 h.retention
  · obtain rfl := Except.ok.inj ((Model.integerOption_of_unset hunset).symm.trans hextension)
    exact firstSet_none_iff.1 h.extension
  · have htracking := h.changeTracking
    rw [(Model.changeTracking_eq_none_iff hm).2 hunset, firstSet_none_iff] at htracking
    exact htracking

theorem GlueFields.fallsBack (h : GlueFields c m r) (hm : Model.ofTemplate v = .ok m) :
    GlueFallsBack c v r := by
  obtain ⟨retention, extension, -, -, rfl⟩ := Model.eq_of_ofTemplate hm
  obtain ⟨declared, hdeclared, hschema⟩ := h.externalSchema
  refine
    { nowhere := fun hunset => h.nowhere (Model.textOption_of_unset hunset)
      derived := fun hunset volume hvolume => ?_
      externalSchema := fun hunset => ?_
      partitionBy := fun hunset => h.partitionBy.trans (Model.listOption_of_unset hunset) }
  · obtain ⟨schema, identifier, -, -, huri⟩ :=
      h.derived volume (Model.textOption_of_unset hunset) hvolume
    exact ⟨schema, identifier, huri⟩
  · rw [hschema, hdeclared, Model.textOption_of_unset hunset]
    rfl

theorem FieldByField.fallsBack (h : FieldByField c m r) (hm : Model.ofTemplate v = .ok m) :
    FallsBack c v r := by
  refine
    { tableFormat := fun hunset => ?_
      fileFormat := fun hunset => ?_
      externalVolume := fun hunset => ?_
      managed := fun hbehaviour => (h.managed hbehaviour).fallsBack hm
      glue := fun hbehaviour => (h.glue hbehaviour).fallsBack hm
      internal := fun hbehaviour hunset => ?_ }
  -- the goals left are about fields that the model itself might have set
  all_goals obtain ⟨retention, extension, -, -, rfl⟩ := Model.eq_of_ofTemplate hm
  · obtain ⟨format, hformat, heq⟩ := h.common.tableFormat
    rw [Model.textOption_of_unset hunset, firstSet_none_iff, optional_ok] at hformat
    rw [heq, Except.ok.inj hformat]
  · obtain ⟨format, hformat, heq⟩ := h.common.fileFormat
    rw [Model.textOption_of_unset hunset, firstSet_none_iff, optional_ok] at hformat
    rw [heq, Except.ok.inj hformat]
  · rw [h.common.externalVolume, Model.textOption_of_unset hunset, Option.none_or]
  · rw [h.other.native hbehaviour, Model.textOption_of_unset hunset]

end Integration

/-! ## Unset options -/

open Integration

/-- What becomes of the options that a model does not set.

- `alike`: it makes no difference in which way an option is not set.
- `renamed`: where an option is not set under its name, its older name counts as the name itself.
- `fallsBack`: a resolved relation has what the integration declares, or a default.
- `flag_unset`, `flag_refused`: the flag is not set only if nothing is said, and whatever else is no
  truth value is refused by an integration of managed tables. -/
structure Model.UnsetOptions (v : TemplateValue) : Prop where
  alike : ∀ v', StatesAlike v v' → ofTemplate v' = ofTemplate v
  renamed : ∀ key older, (key, older) ∈ renamed → SetsNothing (v.stated? key) →
    ofTemplate v = ofTemplate (v.stating key (v.member older))
  fallsBack : ∀ b c i m r, onBackend b c = .ok i → ofTemplate v = .ok m → i.resolve m = .ok r →
    FallsBack c v r
  flag_unset : ∀ m, ofTemplate v = .ok m →
    (m.changeTracking = none ↔ StatesNothing (v.stated? "change_tracking"))
  flag_refused : ∀ flag, v.stated? "change_tracking" = some flag → NoTruthValue flag →
    ∀ (i : Integration) location o m, i.strategy = .managed location o → ofTemplate v = .ok m →
      ∃ f, i.resolve m = .error f ∧ f.kind = .resolution

/-- Options are not set in one way or another, and it makes no difference in which. -/
theorem unset_options_are_interchangeable (v : TemplateValue) : Model.UnsetOptions v where
  alike _ h := h.ofTemplate_eq
  renamed _ _ hkey h := Model.ofTemplate_renamed hkey h
  fallsBack _ _ _ _ _ hbuilt hm hr :=
    (fieldByField_of_madeFrom (madeFrom_of_onBackend hbuilt) hr).fallsBack hm
  flag_unset _ hm := Model.changeTracking_eq_none_iff hm
  flag_refused flag hstated hflag i location o m hstrategy hm := by
    have hchecks := checks_resolveManaged i location o m
    rw [Integration.resolve, hstrategy]
    exact hchecks.exists_error fun h => hflag.not_validOverrides hstated hm h.2.2

example :
    Model.ofTemplate (.map [("alias", .text "t"), ("identifier", .text " None ")]) =
      Model.ofTemplate (.map [("alias", .text "t"), ("identifier", .null)]) := by
  rfl

end Lakehouse
