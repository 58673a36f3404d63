import Lakehouse.Proofs.Model.Unset

/-!
# Models written back

A model can be written as a template value again, with each option that is set under its own name.
Reading brings the options into a form in which reading changes nothing any more.

- `Model.toTemplate`: a model as a template value (`Model.stated?_toTemplate`).
- `Model.NormalText`: the texts that options are set to.
- **`models_are_read_back`**: a model that was read is read again from what it is written as.
-/

namespace Lakehouse

/-! ## Writing a model -/

/-- A flag as a template value. -/
def Flag.toTemplate : Flag → TemplateValue
  | bool b => .bool b
  | text s => .text s

namespace Model

/-- The options that are texts, each under its name. -/
def textOptions (m : Model) : List (String × Option String) :=
  [("database", m.database), ("schema", m.schema), ("identifier", m.identifier),
    ("catalog_name", m.catalogName), ("table_format", m.tableFormat), ("file_format", m.fileFormat),
    ("external_volume", m.externalVolume), ("storage_uri", m.storageUri),
    ("base_location_root", m.baseLocationRoot), ("base_location_subpath", m.baseLocationSubpath),
    ("external_schema", m.externalSchema), ("storage_serialization_policy", m.serializationPolicy)]

/-- All options, each under its name and as a template value. -/
def options (m : Model) : List (String × Option TemplateValue) :=
  m.textOptions.map (fun e => (e.1, e.2.map .text)) ++
    [("partition_by", m.partitionBy.map fun columns => .list (columns.map .text)),
      ("change_tracking", m.changeTracking.map Flag.toTemplate),
      ("data_retention_time_in_days", m.dataRetentionDays.map .int),
      ("max_data_extension_time_in_days", m.maxExtensionDays.map .int)]

/-- A model as a template value: a map of the options that are set. -/
def toTemplate (m : Model) : TemplateValue :=
  .map (NameMap.ofList (m.options.filterMap fun e => e.2.map fun v => (e.1, v))).entries

variable {v : TemplateValue} {m : Model} {key s : String}

/-- The names of the options are the same for every model. -/
theorem names_options (m : Model) : m.options.map (·.1) = (options {}).map (·.1) := rfl

theorem nodup_options (m : Model) : (m.options.map (·.1)).Nodup := by
  rw [names_options]
  decide

/-- Under the name of an option is stated what it is set to, and nothing under any other key. -/
theorem stated?_toTemplate (m : Model) (key : String) :
    m.toTemplate.stated? key = (lookupName key m.options).bind id := by
  have hnames := m.nodup_options
  have hstated := NameMap.get?_ofList (nodup_names_filterMap id hnames) key
  exact hstated.trans (lookupName_filterMap id hnames)

theorem stated?_of_mem {stated : Option TemplateValue} (h : (key, stated) ∈ m.options) :
    m.toTemplate.stated? key = stated := by
  rw [stated?_toTemplate, (lookupName_eq_some_iff m.nodup_options).2 h]
  rfl

/-! ## What options are set to -/

/-- A text without blanks around it that is neither empty nor the word `none`. -/
structure NormalText (s : String) : Prop where
  trimmed : Text.trim s = s
  filled : s ≠ ""
  ne_none : Text.sameToken s "none" = false

theorem unlessUnset_eq_some_iff {t : String} :
    unlessUnset t = some s ↔ t = s ∧ s ≠ "" ∧ Text.sameToken s "none" = false := by
  unfold unlessUnset
  split
  · next hunset =>
    refine iff_of_false (by simp) ?_
    rintro ⟨rfl, hfilled, hnone⟩
    rcases hunset with hempty | hword
    · exact hfilled hempty
    · rw [hword] at hnone
      cases hnone
  · next hset =>
    rw [not_or, Bool.not_eq_true] at hset
    constructor
    · intro h
      obtain rfl := Option.some.inj h
      exact ⟨rfl, hset⟩
    · rintro ⟨rfl, -⟩
      rfl

theorem defined?_eq_some_iff {w : TemplateValue} :
    defined? v key = some w ↔ v.stated? key = some w ∧ w.isDefined = true := by
  rw [defined?_eq, Option.filter_eq_some_iff]

/-- What a key states is no broken text. -/
def Unbroken (v : TemplateValue) (key : String) : Prop :=
  ∀ bs, v.stated? key = some (.bytes bs) → ∃ s, Text.ofBytes? bs = some s

/-- A text is trimmed, and nothing else needs to be. -/
theorem trim_textOf {w : TemplateValue} (hdefined : w.isDefined = true)
    (hunbroken : ∀ bs, w = .bytes bs → ∃ s, Text.ofBytes? bs = some s) :
    Text.trim (textOf w) = textOf w := by
  rw [textOf]
  cases htext : w.text? with
  | some s => exact Text.trim_trim s
  | none =>
    refine (TemplateValue.solid_rendered hdefined htext ?_).trim_eq
    rintro bs rfl
    obtain ⟨s, hs⟩ := hunbroken bs rfl
    exact absurd (hs.symm.trans htext) (by simp)

theorem normalText_of_textOption (hunbroken : Unbroken v key) (h : textOption v key = some s) :
    NormalText s := by
  obtain ⟨w, hw, hset⟩ := Option.bind_eq_some_iff.1 h
  obtain ⟨hstated, hdefined⟩ := defined?_eq_some_iff.1 hw
  obtain ⟨rfl, hfilled, hnone⟩ := unlessUnset_eq_some_iff.1 hset
  exact ⟨trim_textOf hdefined fun bs hbs => hunbroken bs (hbs ▸ hstated), hfilled, hnone⟩

/-- Every text of a model that is read was an option under some key. -/
theorem exists_textOption (h : ofTemplate v = .ok m) :
    ∀ e ∈ m.textOptions, ∀ s, e.2 = some s → ∃ key ∈ keys, textOption v key = some s := by
  obtain ⟨retention, extension, -, -, rfl⟩ := eq_of_ofTemplate h
  have hown (key : String) (hkey : key ∈ keys) : ∀ s, textOption v key = some s →
      ∃ key ∈ keys, textOption v key = some s := fun s hs => ⟨key, hkey, hs⟩
  have hrenamed (key older : String) (hkey : key ∈ keys) (holder : older ∈ keys) :
      ∀ s, renamedOption v key older = some s → ∃ key ∈ keys, textOption v key = some s := by
    intro s hs
    rcases Option.or_eq_some_iff.1 hs with hs | ⟨-, hs⟩
    · exact ⟨key, hkey, hs⟩
    · exact ⟨older, holder, hs⟩
  simp only [textOptions, List.forall_mem_cons]
  exact ⟨hown _ (by decide), hown _ (by decide), hrenamed _ _ (by decide) (by decide),
    hrenamed _ _ (by decide) (by decide), hown _ (by decide), hown _ (by decide), hown _ (by decide),
    hown _ (by decide), hown _ (by decide), hown _ (by decide), hown _ (by decide),
    hown _ (by decide), by simp⟩

theorem fits64_of_binary64 {x : Decimal.Binary64} {n : Int} (h : x.toWord? = some n) :
    Decimal.fits64 n = true := by
  cases x with
  | nan | infinite negative => cases h
  | finite negative m e =>
    simp only [Decimal.Binary64.toWord?] at h
    split at h
    · -- the bounds hold for the number with its sign, whatever the sign is
      generalize (if negative = true then _ else _ : Int) = k at h
      split at h
      · obtain rfl := Option.some.inj h
        rw [Decimal.fits64, Bool.and_eq_true, decide_eq_true_iff, decide_eq_true_iff,
          Decimal.least64, Decimal.greatest64]
        omega
      · cases h
    · cases h

theorem fits64_of_toWord? {w : TemplateValue} {n : Int} (h : w.toWord? = some n) :
    Decimal.fits64 n = true := by
  cases w with
  | bool b =>
    obtain rfl := Option.some.inj h
    cases b <;> decide
  | int k =>
    rw [TemplateValue.toWord?] at h
    split at h
    · next hfits => exact Option.some.inj h ▸ hfits
    · cases h
  | float x => exact fits64_of_binary64 h
  | _ => cases h

/-- Whole numbers of a model are within the range of a word. -/
theorem fits64_of_integerOption {n : Int} (h : integerOption v key = .ok (some n)) :
    Decimal.fits64 n = true := by
  unfold integerOption at h
  split at h
  · cases h
  · split at h
    · next hword =>
      obtain rfl := Option.some.inj (Except.ok.inj h)
      exact fits64_of_toWord? hword
    · cases h
    · split at h
      · cases h
      · split at h
        · next hread =>
          obtain rfl := Option.some.inj (Except.ok.inj h)
          exact Decimal.fits64_of_signed64? hread
        · cases h

/-! ## Reading what was written -/

section Stated

variable {given : Option String} {columns : Option (List String)} {flag : Option Flag}
  {days : Option Int}

theorem textOption_of_stated (h : v.stated? key = given.map .text)
    (hnormal : ∀ s, given = some s → NormalText s) : textOption v key = given := by
  cases given with
  | none => exact textOption_of_unset (h ▸ .unsaid .absent)
  | some s =>
    have hs := hnormal s rfl
    have hdefined : defined? v key = some (.text s) := defined?_eq_some_iff.2 ⟨h, rfl⟩
    rw [textOption, hdefined]
    exact unlessUnset_eq_some_iff.2 ⟨hs.trimmed, hs.filled, hs.ne_none⟩

theorem listOption_of_stated
    (h : v.stated? key = columns.map fun columns => .list (columns.map .text)) :
    listOption v key = columns := by
  cases columns with
  | none => exact listOption_of_unset (h ▸ .unsaid .absent)
  | some columns =>
    have hdefined : defined? v key = some (.list (columns.map .text)) :=
      defined?_eq_some_iff.2 ⟨h, rfl⟩
    have hraw : (columns.map .text).map rawTextOf = columns := by
      rw [List.map_map]
      exact List.map_id columns
    rw [listOption, hdefined, Option.bind_some]
    exact congrArg some hraw

theorem flagOption_of_stated (h : v.stated? key = flag.map Flag.toTemplate) :
    flagOption v key = flag := by
  cases flag with
  | none => rw [flagOption, defined?_eq_none_iff.2 (h ▸ .absent), Option.map_none]
  | some flag =>
    cases flag with
    | bool b =>
      have hdefined : defined? v key = some (.bool b) := defined?_eq_some_iff.2 ⟨h, rfl⟩
      rw [flagOption, hdefined]
      rfl
    | text s =>
      have hdefined : defined? v key = some (.text s) := defined?_eq_some_iff.2 ⟨h, rfl⟩
      rw [flagOption, hdefined]
      rfl

theorem integerOption_of_stated (h : v.stated? key = days.map .int)
    (hfits : ∀ n, days = some n → Decimal.fits64 n = true) : integerOption v key = .ok days := by
  cases days with
  | none => exact integerOption_of_unset (h ▸ .unsaid .absent)
  | some n =>
    have hdefined : defined? v key = some (.int n) := defined?_eq_some_iff.2 ⟨h, rfl⟩
    have hword : (TemplateValue.int n).toWord? = some n := if_pos (hfits n rfl)
    simp only [integerOption, hdefined, hword]

end Stated

/-- The texts of the model are in normal form. -/
def Normal (m : Model) : Prop :=
  ∀ e ∈ m.textOptions, ∀ s, e.2 = some s → NormalText s

/-- A model in normal form, with numbers of days that are words, is read from what it is written as. -/
theorem ofTemplate_toTemplate (hnormal : m.Normal)
    (hretention : ∀ n, m.dataRetentionDays = some n → Decimal.fits64 n = true)
    (hextension : ∀ n, m.maxExtensionDays = some n → Decimal.fits64 n = true) :
    ofTemplate m.toTemplate = .ok m := by
  have hread : ∀ e ∈ m.textOptions, textOption m.toTemplate e.1 = e.2 := by
    intro e he
    refine textOption_of_stated (stated?_of_mem ?_) (hnormal e he)
    exact List.mem_append_left _ (List.mem_map_of_mem he)
  -- older names are not written, so that what is read under the newer ones is all there is
  have halias (key : String) (hkey : key ∉ (options {}).map (·.1)) :
      textOption m.toTemplate key = none := by
    refine textOption_of_unset ?_
    rw [stated?_toTemplate, lookupName_eq_none_iff.2 (names_options m ▸ hkey)]
    exact .unsaid .absent
  have hpartition : listOption m.toTemplate "partition_by" = m.partitionBy :=
    listOption_of_stated (stated?_of_mem (by simp [options]))
  have hflag : flagOption m.toTemplate "change_tracking" = m.changeTracking :=
    flagOption_of_stated (stated?_of_mem (by simp [options]))
  have hretention : integerOption m.toTemplate "data_retention_time_in_days" =
      .ok m.dataRetentionDays :=
    integerOption_of_stated (stated?_of_mem (by simp [options])) hretention
  have hextension : integerOption m.toTemplate "max_data_extension_time_in_days" =
      .ok m.maxExtensionDays :=
    integerOption_of_stated (stated?_of_mem (by simp [options])) hextension
  simp only [textOptions, List.forall_mem_cons] at hread
  obtain ⟨hdatabase, hschema, hidentifier, hcatalog, htable, hfile, hvolume, huri, hroot, hsubpath,
    hexternal, hpolicy, -⟩ := hread
  rw [ofTemplate, hretention, hextension]
  simp only [renamedOption, hdatabase, hschema, hidentifier, hcatalog, htable, hfile, hvolume, huri,
    hroot, hsubpath, hexternal, hpolicy, hpartition, hflag, halias "alias" (by decide),
    halias "catalog" (by decide), Option.or_none]
  rfl

end Model

/-- A model that was read from a value without broken texts has its texts in normal form, and is the
same when it is written and read again. -/
theorem models_are_read_back {v : TemplateValue} {m : Model}
    (hunbroken : ∀ key ∈ Model.keys, Model.Unbroken v key) (h : Model.ofTemplate v = .ok m) :
    m.Normal ∧ Model.ofTemplate m.toTemplate = .ok m := by
  have hnormal : m.Normal := by
    intro e he s hs
    obtain ⟨key, hkey, hread⟩ := Model.exists_textOption h e he s hs
    exact Model.normalText_of_textOption (hunbroken key hkey) hread
  refine ⟨hnormal, Model.ofTemplate_toTemplate hnormal ?_ ?_⟩
  all_goals obtain ⟨retention, extension, hretention, hextension, rfl⟩ := Model.eq_of_ofTemplate h
  · rintro n rfl
    exact Model.fits64_of_integerOption hretention
  · rintro n rfl
    exact Model.fits64_of_integerOption hextension

/-- A template value that states options in many ways: under an older name, with blanks, as bytes, as a
list, as a number and as a text that is one. -/
def untidyTemplate : TemplateValue :=
  .map [("alias", .text " orders "), ("change_tracking", .text " maybe "),
    ("data_retention_time_in_days", .text " +7 "), ("external_volume", .list [.text "a", .null]),
    ("identifier", .text " None "), ("max_data_extension_time_in_days", .bool true),
    ("partition_by", .list [.text " day ", .int 3]), ("schema", .bytes [0x20, 0x73])]

theorem models_are_read_back_untidy :
    ∃ m, Model.ofTemplate untidyTemplate = .ok m ∧
      m.identifier = some "orders" ∧ m.schema = some "s" ∧ m.partitionBy = some [" day ", "3"] ∧
      m.dataRetentionDays = some 7 ∧ m.maxExtensionDays = some 1 ∧
      m.Normal ∧ Model.ofTemplate m.toTemplate = .ok m := by
  have hunbroken : ∀ key ∈ Model.keys, Model.Unbroken untidyTemplate key := by
    intro key hkey bs hbs
    have hmem : (key, TemplateValue.bytes bs) ∈ untidyTemplate.entries :=
      (lookupName_eq_some_iff (by decide)).1 hbs
    obtain ⟨-, rfl⟩ : key = "schema" ∧ bs = [0x20, 0x73] := by
      simpa [untidyTemplate, TemplateValue.entries] using hmem
    exact ⟨" s", by decide⟩
  obtain ⟨m, hm, hfields⟩ : ∃ m, Model.ofTemplate untidyTemplate = .ok m ∧
      m.identifier = some "orders" ∧ m.schema = some "s" ∧ m.partitionBy = some [" day ", "3"] ∧
      m.dataRetentionDays = some 7 ∧ m.maxExtensionDays = some 1 :=
    ⟨_, rfl, rfl, rfl, rfl, rfl, rfl⟩
  obtain ⟨hidentifier, hschema, hpartition, hretention, hextension⟩ := hfields
  exact ⟨m, hm, hidentifier, hschema, hpartition, hretention, hextension,
    models_are_read_back hunbroken hm⟩

end Lakehouse
