import Lakehouse.Proofs.Declaration.Projected
import Lakehouse.Proofs.Integration.Resolvable

/-!
# Integrations that are understood

What the declaration of one integration comes to, said without the functions that read it: which texts
are words, which properties are scalars, and what is found wrong first where something is.

- `ReadsWords`: a rule that reads the words of a vocabulary, and no other text. There is one for catalog
  types, one for table formats and one for file formats.
- `YamlValue.IsNested`, `YamlValue.WrittenAs`: the values that cannot be properties, and the texts of
  those that can.
- `IntegrationDeclaration.Understood`: the declarations that are understood
  (`IntegrationDeclaration.exists_toConfig_iff`), and `IntegrationDeclaration.Means`: their configs
  (`IntegrationDeclaration.means_of_toConfig`).
- `IntegrationDeclaration.Fault`: what is wrong with the others, which is what they fail with
  (`IntegrationDeclaration.toConfig_eq_error_iff`).
-/

namespace Lakehouse

/-! ## Words -/

/-- A rule reads the texts that spell a word, and refuses every other text in one way. -/
structure ReadsWords {α : Type} (token : α → String) (unknown : String → Failure)
    (rule : String → Answer α) : Prop where
  eq_ok_iff : ∀ raw word, rule raw = .ok word ↔ SpelledAs raw (token word)
  eq_unknown : ∀ raw f, rule raw = .error f → f = unknown (Text.trim raw)

theorem CatalogType.readsWords : ReadsWords token unknown parse where
  eq_ok_iff := by
    intro raw word
    have hmem : ∀ t, t ∈ all := by intro t; cases t <;> decide
    have htoken : ∀ t, Text.foldAscii (token t) = token t := by intro t; cases t <;> decide
    have hinj : Function.Injective token := by intro t t'; cases t <;> cases t' <;> decide
    rw [← readToken?_eq_some_iff hmem htoken hinj]
    unfold CatalogType.parse
    cases readToken? token all (Text.trim raw) <;> simp
  eq_unknown := by
    intro raw f h
    unfold CatalogType.parse at h
    split at h
    · cases h
    · exact (Except.error.inj h).symm

theorem TableFormat.readsWords : ReadsWords token unknown parse where
  eq_ok_iff := fun _ _ => parse_eq_ok_iff
  eq_unknown := by
    intro raw f h
    unfold TableFormat.parse at h
    split at h
    · cases h
    · exact (Except.error.inj h).symm

theorem FileFormat.readsWords : ReadsWords token unknown parse where
  eq_ok_iff := fun _ _ => parse_eq_ok_iff
  eq_unknown := by
    intro raw f h
    unfold FileFormat.parse at h
    split at h
    · cases h
    · exact (Except.error.inj h).symm

namespace ReadsWords

variable {α : Type} {token : α → String} {unknown : String → Failure} {rule : String → Answer α}
  {raw : String} {given : Option String} {f : Failure}

theorem exists_ok_iff (h : ReadsWords token unknown rule) :
    (∃ word, rule raw = .ok word) ↔ ∃ word, SpelledAs raw (token word) :=
  exists_congr fun word => h.eq_ok_iff raw word

theorem eq_error_iff (h : ReadsWords token unknown rule) :
    rule raw = .error f ↔ (∀ word, ¬ SpelledAs raw (token word)) ∧ f = unknown (Text.trim raw) := by
  constructor
  · intro hf
    refine ⟨fun word hword => ?_, h.eq_unknown raw f hf⟩
    rw [(h.eq_ok_iff raw word).2 hword] at hf
    cases hf
  · rintro ⟨hnone, rfl⟩
    cases hread : rule raw with
    | ok word => exact absurd ((h.eq_ok_iff raw word).1 hread) (hnone word)
    | error g => rw [h.eq_unknown raw g hread]

/-! Where a word need not be given. -/

theorem optional_eq_ok_iff (h : ReadsWords token unknown rule) {word : Option α} :
    optional rule given = .ok word ↔
      Option.Rel (fun raw word => SpelledAs raw (token word)) given word := by
  cases given with
  | none =>
    constructor
    · rintro ⟨⟩
      exact .none
    · rintro ⟨⟩
      rfl
  | some raw =>
    constructor
    · intro hword
      obtain ⟨a, ha, rfl⟩ := exists_of_map_ok hword
      exact .some ((h.eq_ok_iff raw a).1 ha)
    · rintro (hspelled | _)
      rw [optional, (h.eq_ok_iff raw _).2 hspelled]
      rfl

theorem exists_optional_iff (h : ReadsWords token unknown rule) :
    (∃ word, optional rule given = .ok word) ↔
      ∀ raw, given = some raw → ∃ word, SpelledAs raw (token word) := by
  simp only [h.optional_eq_ok_iff]
  constructor
  · rintro ⟨_, hspelled | _⟩ raw hraw
    · exact ⟨_, Option.some.inj hraw ▸ hspelled⟩
    · cases hraw
  · intro hspelled
    cases given with
    | none => exact ⟨none, .none⟩
    | some raw =>
      obtain ⟨word, hword⟩ := hspelled raw rfl
      exact ⟨some word, .some hword⟩

theorem optional_eq_error_iff (h : ReadsWords token unknown rule) :
    optional rule given = .error f ↔
      ∃ raw, given = some raw ∧ (∀ word, ¬ SpelledAs raw (token word)) ∧
        f = unknown (Text.trim raw) := by
  cases given with
  | none => simp [optional]
  | some raw =>
    simp only [Option.some.injEq, exists_eq_left', ← h.eq_error_iff, optional]
    cases rule raw <;> simp [Except.map]

end ReadsWords

/-! ## Properties -/

namespace YamlValue

variable {v : YamlValue} {s : String}

/-- The value is a list or a map, whatever its tags. -/
def IsNested (v : YamlValue) : Prop :=
  (∃ items, v.untagged = .list items) ∨ ∃ entries, v.untagged = .map entries

/-- A scalar without tags is written as a text. -/
inductive WrittenAs : YamlValue → String → Prop
  | true : WrittenAs (.bool Bool.true) "true"
  | false : WrittenAs (.bool Bool.false) "false"
  | int (n : Int) : WrittenAs (.int n) (toString n)
  | float (x : Decimal.Binary64) : WrittenAs (.float x) (numbers.text x)
  | text (s : String) : WrittenAs (.text s) s

/-- Tags make no difference to the text of a value. -/
theorem scalarText?_untagged : ∀ v : YamlValue, v.untagged.scalarText? = v.scalarText?
  | tagged _ v => scalarText?_untagged v
  | null | bool _ | int _ | float _ | text _ | list _ | map _ => rfl

theorem untagged_ne_tagged : ∀ (v : YamlValue) (tag : String) (w : YamlValue),
    v.untagged ≠ .tagged tag w
  | tagged _ v => untagged_ne_tagged v
  | null | bool _ | int _ | float _ | text _ | list _ | map _ => by
    rintro tag w ⟨⟩

theorem scalarText?_eq_none_iff : v.scalarText? = none ↔ v.IsNested := by
  rw [← scalarText?_untagged, IsNested]
  cases hv : v.untagged with
  | tagged tag w => exact absurd hv (untagged_ne_tagged v tag w)
  | _ => simp [scalarText?]

theorem scalarText?_eq_null_iff : v.scalarText? = some none ↔ v.untagged = .null := by
  rw [← scalarText?_untagged]
  cases hv : v.untagged with
  | tagged tag w => exact absurd hv (untagged_ne_tagged v tag w)
  | _ => simp [scalarText?]

theorem scalarText?_eq_some_iff : v.scalarText? = some (some s) ↔ v.untagged.WrittenAs s := by
  rw [← scalarText?_untagged]
  constructor
  · intro h
    cases hv : v.untagged with
    | tagged tag w => exact absurd hv (untagged_ne_tagged v tag w)
    | null | list _ | map _ => rw [hv] at h; cases h
    | bool b =>
      rw [hv] at h
      obtain rfl := Option.some.inj (Option.some.inj h)
      cases b with
      | true => exact .true
      | false => exact .false
    | int n =>
      rw [hv] at h
      obtain rfl := Option.some.inj (Option.some.inj h)
      exact .int n
    | float x =>
      rw [hv] at h
      obtain rfl := Option.some.inj (Option.some.inj h)
      exact .float x
    | text s' =>
      rw [hv] at h
      obtain rfl := Option.some.inj (Option.some.inj h)
      exact .text s'
  · generalize v.untagged = w
    rintro (_ | _ | _ | _ | _) <;> rfl

/-- The text of a scalar that is not null. -/
def shown? (v : YamlValue) : Option String :=
  v.scalarText?.join

theorem shown?_eq_some_iff : v.shown? = some s ↔ v.untagged.WrittenAs s := by
  rw [shown?, Option.join_eq_some_iff, scalarText?_eq_some_iff]

theorem shown?_eq_none_iff (h : ¬ v.IsNested) : v.shown? = none ↔ v.untagged = .null := by
  rw [← scalarText?_eq_none_iff] at h
  rw [shown?, ← scalarText?_eq_null_iff, Option.join_eq_none_iff]
  exact or_iff_right h

end YamlValue

namespace IntegrationDeclaration

variable {d : IntegrationDeclaration} {name : String} {allowsWrites : Bool}
  {config : IntegrationConfig} {f : Failure} {entries : List (String × YamlValue)}

/-- One property as a text, unless it is null. -/
def propertyText (e : String × YamlValue) : Answer (Option (String × String)) :=
  match e.2.scalarText? with
  | none => .error (notScalar e.1)
  | some s? => .ok (s?.map fun s => (e.1, s))

/-- The properties are read one by one. -/
theorem propertyTexts_eq : ∀ entries : List (String × YamlValue),
    propertyTexts entries = (entries.mapM propertyText).map fun texts => texts.filterMap id
  | [] => rfl
  | (key, v) :: rest => by
    rw [propertyTexts, List.mapM_cons, propertyText, propertyTexts_eq rest]
    cases v.scalarText? with
    | none => rfl
    | some s? => cases rest.mapM propertyText <;> cases s? <;> rfl

theorem exists_propertyText_iff {e : String × YamlValue} :
    (∃ text, propertyText e = .ok text) ↔ ¬ e.2.IsNested := by
  rw [propertyText, ← YamlValue.scalarText?_eq_none_iff]
  cases e.2.scalarText? <;> simp

theorem propertyText_eq_error_iff {e : String × YamlValue} :
    propertyText e = .error f ↔ e.2.IsNested ∧ f = notScalar e.1 := by
  rw [propertyText, ← YamlValue.scalarText?_eq_none_iff]
  cases e.2.scalarText? <;> simp [eq_comm]

/-- The properties are texts if they are scalars. -/
theorem propertyTexts_of_scalars (h : ∀ e ∈ entries, ¬ e.2.IsNested) :
    propertyTexts entries =
      .ok (entries.filterMap fun e => e.2.shown?.map fun s => (e.1, s)) := by
  have hread : entries.mapM propertyText =
      .ok (entries.map fun e => e.2.shown?.map fun s => (e.1, s)) := by
    refine mapM_eq_map fun e he => ?_
    have hscalar := h e he
    rw [← YamlValue.scalarText?_eq_none_iff] at hscalar
    obtain ⟨s?, hs⟩ := Option.ne_none_iff_exists'.1 hscalar
    rw [propertyText, YamlValue.shown?, hs]
    rfl
  rw [propertyTexts_eq, hread, Except.map, List.filterMap_map]
  rfl

theorem exists_propertyTexts_iff :
    (∃ texts, propertyTexts entries = .ok texts) ↔ ∀ e ∈ entries, ¬ e.2.IsNested := by
  constructor
  · rintro ⟨texts, h⟩ e he
    rw [propertyTexts_eq] at h
    obtain ⟨each, heach, -⟩ := exists_of_map_ok h
    obtain ⟨text, -, htext⟩ := exists_of_mapM_ok heach he
    exact exists_propertyText_iff.1 ⟨text, htext⟩
  · intro h
    exact ⟨_, propertyTexts_of_scalars h⟩

/-- Where some properties are no scalars, the first of these says why there are no texts. -/
theorem propertyTexts_eq_error_iff :
    propertyTexts entries = .error f ↔ ∃ earlier key v later,
      entries = earlier ++ (key, v) :: later ∧ (∀ e ∈ earlier, ¬ e.2.IsNested) ∧ v.IsNested ∧
        f = notScalar key := by
  rw [propertyTexts_eq, map_eq_error_iff, mapM_eq_error_iff]
  simp only [exists_propertyText_iff, propertyText_eq_error_iff, Prod.exists]

/-- Under each name is the text of the property, if it is a scalar that is not null. -/
theorem get?_ofList_shown (properties : NameMap YamlValue) (key : String) :
    (NameMap.ofList (properties.entries.filterMap fun e => e.2.shown?.map fun s => (e.1, s))).get? key =
      (properties.get? key).bind YamlValue.shown? := by
  have hdistinct := properties.nodup_names
  rw [NameMap.get?_ofList (nodup_names_filterMap YamlValue.shown? hdistinct)]
  exact lookupName_filterMap YamlValue.shown? hdistinct

/-! ## Integrations -/

/-- What is declared of an integration can be understood. -/
structure Understood (d : IntegrationDeclaration) : Prop where
  catalogType : ∃ type, SpelledAs d.catalogType (CatalogType.token type)
  tableFormat : ∀ raw, d.tableFormat = some raw →
    ∃ format, SpelledAs raw (TableFormat.token format)
  fileFormat : ∀ raw, d.fileFormat = some raw → ∃ format, SpelledAs raw (FileFormat.token format)
  properties : ∀ e ∈ d.properties.entries, ¬ e.2.IsNested

/-- What a declaration that is understood means under a name.

- `tableFormat`, `fileFormat`: a format is left open where none is declared.
- `externalVolume`: a volume is kept as it is written, unless it is blank.
- `names`, `texts`: there is a property for each one that is not null, and it is the text of that one's
  value. -/
structure Means (d : IntegrationDeclaration) (name : String) (allowsWrites : Bool)
    (config : IntegrationConfig) : Prop where
  name : config.name = name
  allowsWrites : config.allowsWrites = allowsWrites
  catalogType : SpelledAs d.catalogType config.catalogType.token
  tableFormat : Option.Rel (fun raw format => SpelledAs raw (TableFormat.token format))
    d.tableFormat config.tableFormat
  fileFormat : Option.Rel (fun raw format => SpelledAs raw (FileFormat.token format))
    d.fileFormat config.fileFormat
  externalVolume : ∀ volume, config.externalVolume = some volume ↔
    d.externalVolume = some volume ∧ Text.trim volume ≠ ""
  names : ∀ key, key ∈ config.properties.names ↔
    ∃ v, d.properties.get? key = some v ∧ v.untagged ≠ .null
  texts : ∀ key s, config.properties.get? key = some s ↔
    ∃ v, d.properties.get? key = some v ∧ v.untagged.WrittenAs s

/-- What is wrong with a declaration that is not understood. The catalog type is looked at first, then
the formats, and then the properties in the order of their names. -/
inductive Fault (d : IntegrationDeclaration) : Failure → Prop
  | catalogType (h : ∀ type, ¬ SpelledAs d.catalogType (CatalogType.token type)) :
      Fault d (CatalogType.unknown (Text.trim d.catalogType))
  | tableFormat {raw : String} (htype : ∃ type, SpelledAs d.catalogType (CatalogType.token type))
      (hraw : d.tableFormat = some raw) (h : ∀ format, ¬ SpelledAs raw (TableFormat.token format)) :
      Fault d (TableFormat.unknown (Text.trim raw))
  | fileFormat {raw : String} (htype : ∃ type, SpelledAs d.catalogType (CatalogType.token type))
      (htable : ∀ raw, d.tableFormat = some raw →
        ∃ format, SpelledAs raw (TableFormat.token format))
      (hraw : d.fileFormat = some raw) (h : ∀ format, ¬ SpelledAs raw (FileFormat.token format)) :
      Fault d (FileFormat.unknown (Text.trim raw))
  | property {earlier later : List (String × YamlValue)} {key : String} {v : YamlValue}
      (htype : ∃ type, SpelledAs d.catalogType (CatalogType.token type))
      (htable : ∀ raw, d.tableFormat = some raw →
        ∃ format, SpelledAs raw (TableFormat.token format))
      (hfile : ∀ raw, d.fileFormat = some raw → ∃ format, SpelledAs raw (FileFormat.token format))
      (hsplit : d.properties.entries = earlier ++ (key, v) :: later)
      (hearlier : ∀ e ∈ earlier, ¬ e.2.IsNested) (h : v.IsNested) :
      Fault d (notScalar key)

theorem exists_toConfig_iff :
    (∃ config, d.toConfig name allowsWrites = .ok config) ↔ d.Understood := by
  constructor
  · rintro ⟨config, h⟩
    have h := eq_ok_of_mapError_ok h
    obtain ⟨type, htype, h⟩ := exists_of_bind_ok h
    obtain ⟨table, htable, h⟩ := exists_of_bind_ok h
    obtain ⟨file, hfile, h⟩ := exists_of_bind_ok h
    obtain ⟨texts, htexts, -⟩ := exists_of_bind_ok h
    exact ⟨CatalogType.readsWords.exists_ok_iff.1 ⟨type, htype⟩,
      TableFormat.readsWords.exists_optional_iff.1 ⟨table, htable⟩,
      FileFormat.readsWords.exists_optional_iff.1 ⟨file, hfile⟩,
      exists_propertyTexts_iff.1 ⟨texts, htexts⟩⟩
  · intro h
    obtain ⟨type, htype⟩ := CatalogType.readsWords.exists_ok_iff.2 h.catalogType
    obtain ⟨table, htable⟩ := TableFormat.readsWords.exists_optional_iff.2 h.tableFormat
    obtain ⟨file, hfile⟩ := FileFormat.readsWords.exists_optional_iff.2 h.fileFormat
    obtain ⟨texts, htexts⟩ := exists_propertyTexts_iff.2 h.properties
    rw [toConfig, htype, htable, hfile, htexts]
    exact ⟨_, rfl⟩

/-- A declaration that is not understood fails with what is wrong with it first. -/
theorem toConfig_eq_error_iff :
    d.toConfig name allowsWrites = .error f ↔ ∃ fault, d.Fault fault ∧ f = d.inContext fault := by
  have hpure {g : Failure} {c : IntegrationConfig} : ¬ (pure c : Answer IntegrationConfig) = .error g := by
    rintro ⟨⟩
  rw [toConfig, mapError_eq_error_iff]
  simp only [bind_eq_error_iff, hpure, and_false, exists_false, or_false,
    CatalogType.readsWords.eq_error_iff, TableFormat.readsWords.optional_eq_error_iff,
    FileFormat.readsWords.optional_eq_error_iff, propertyTexts_eq_error_iff]
  refine exists_congr fun fault => and_congr ?_ eq_comm
  constructor
  · rintro (⟨h, rfl⟩ | ⟨type, htype, h⟩)
    · exact .catalogType h
    have htype := CatalogType.readsWords.exists_ok_iff.1 ⟨type, htype⟩
    obtain ⟨raw, hraw, h, rfl⟩ | ⟨table, htable, h⟩ := h
    · exact .tableFormat htype hraw h
    have htable := TableFormat.readsWords.exists_optional_iff.1 ⟨table, htable⟩
    obtain ⟨raw, hraw, h, rfl⟩ | ⟨file, hfile, earlier, key, v, later, hsplit, hearlier, h, rfl⟩ := h
    · exact .fileFormat htype htable hraw h
    · have hfile := FileFormat.readsWords.exists_optional_iff.1 ⟨file, hfile⟩
      exact .property htype htable hfile hsplit hearlier h
  · intro h
    cases h with
    | catalogType h => exact .inl ⟨h, rfl⟩
    | tableFormat htype hraw h =>
      obtain ⟨type, htype⟩ := CatalogType.readsWords.exists_ok_iff.2 htype
      exact .inr ⟨type, htype, .inl ⟨_, hraw, h, rfl⟩⟩
    | fileFormat htype htable hraw h =>
      obtain ⟨type, htype⟩ := CatalogType.readsWords.exists_ok_iff.2 htype
      obtain ⟨table, htable⟩ := TableFormat.readsWords.exists_optional_iff.2 htable
      exact .inr ⟨type, htype, .inr ⟨table, htable, .inl ⟨_, hraw, h, rfl⟩⟩⟩
    | property htype htable hfile hsplit hearlier h =>
      obtain ⟨type, htype⟩ := CatalogType.readsWords.exists_ok_iff.2 htype
      obtain ⟨table, htable⟩ := TableFormat.readsWords.exists_optional_iff.2 htable
      obtain ⟨file, hfile⟩ := FileFormat.readsWords.exists_optional_iff.2 hfile
      exact .inr ⟨type, htype, .inr ⟨table, htable, .inr ⟨file, hfile, _, _, _, _, hsplit, hearlier,
        h, rfl⟩⟩⟩

/-- A fault is one of the catalog type, or of how the integration is configured. -/
theorem Fault.kind_eq {fault : Failure} (h : d.Fault fault) :
    fault.kind = .notSupported ∨ fault.kind = .invalidIntegrationConfig := by
  cases h with
  | catalogType h => exact .inl rfl
  | tableFormat _ _ h => exact .inr rfl
  | fileFormat _ _ _ h => exact .inr rfl
  | property _ _ _ _ _ h => exact .inr rfl

/-- What a declaration comes to is what it means. -/
theorem means_of_toConfig (h : d.toConfig name allowsWrites = .ok config) :
    d.Means name allowsWrites config := by
  have hscalars := (exists_toConfig_iff.1 ⟨config, h⟩).properties
  have h := eq_ok_of_mapError_ok h
  obtain ⟨type, htype, h⟩ := exists_of_bind_ok h
  obtain ⟨table, htable, h⟩ := exists_of_bind_ok h
  obtain ⟨file, hfile, h⟩ := exists_of_bind_ok h
  obtain ⟨texts, htexts, h⟩ := exists_of_bind_ok h
  obtain rfl := Except.ok.inj h
  rw [propertyTexts_of_scalars hscalars] at htexts
  obtain rfl := Except.ok.inj htexts
  have hproperty := get?_ofList_shown d.properties
  refine
    { name := rfl
      allowsWrites := rfl
      catalogType := (CatalogType.readsWords.eq_ok_iff _ _).1 htype
      tableFormat := TableFormat.readsWords.optional_eq_ok_iff.1 htable
      fileFormat := FileFormat.readsWords.optional_eq_ok_iff.1 hfile
      externalVolume := fun volume => ?_
      names := fun key => ?_
      texts := fun key s => ?_ }
  · simp only [Option.bind_eq_some_iff, Text.unlessBlank_eq_some_iff]
    constructor
    · rintro ⟨raw, hraw, rfl, hfilled⟩
      exact ⟨hraw, hfilled⟩
    · rintro ⟨hvolume, hfilled⟩
      exact ⟨volume, hvolume, rfl, hfilled⟩
  · rw [← NameMap.contains_iff, NameMap.contains, hproperty, Option.isSome_iff_ne_none]
    cases hv : d.properties.get? key with
    | none => simp
    | some v =>
      have hscalar : ¬ v.IsNested :=
        hscalars (key, v) ((lookupName_eq_some_iff d.properties.nodup_names).1 hv)
      simp [YamlValue.shown?_eq_none_iff hscalar]
  · rw [hproperty, Option.bind_eq_some_iff]
    simp only [YamlValue.shown?_eq_some_iff]

end IntegrationDeclaration

end Lakehouse
