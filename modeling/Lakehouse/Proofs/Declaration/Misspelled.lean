import Lakehouse.Proofs.Declaration.Spelled
import Mathlib.Data.List.Nodup

/-!
# Documents that are refused

Which keys a record may have, which of them it must have and which are two spellings of one. A document
with a record that has both spellings of a key, lacks a key or has any other key is refused, at every
level. Only the properties of an integration may have any key.

- `Vocabulary`: the keys of a record; `IntegrationDeclaration.vocabulary`,
  `CatalogDeclaration.vocabulary` and `Declarations.vocabulary` are those of the three records.
- `Vocabulary.Misspelled`: what can be wrong with the keys of a record.
- `Declarations.Misspelled`: something is wrong with the keys of one of the records of a document.
- **`Declarations.error_of_misspelled`**: then the document is refused.
-/

namespace Lakehouse

/-! ## Vocabularies -/

/-- The keys of a record, each by its spellings. -/
structure Vocabulary where
  required : List (List String)
  optional : List (List String)

namespace Vocabulary

/-- All keys, each by its spellings. -/
def all (voc : Vocabulary) : List (List String) :=
  voc.required ++ voc.optional

/-- The record has a key that is spelled so. -/
def HasKey (v : YamlValue) (s : String) : Prop :=
  ∃ e ∈ v.recordEntries, e.1.keyText? = some s

/-- Something is wrong with the keys of a record: a key is there in two spellings, one that must be there
is not, or there is another, which may be a text or not. -/
inductive Misspelled (voc : Vocabulary) (v : YamlValue) : Prop
  | twice {spellings : List String} {s t : String} (hspellings : spellings ∈ voc.all)
      (hs : s ∈ spellings) (ht : t ∈ spellings) (hne : s ≠ t) (hhas : HasKey v s) (hhas' : HasKey v t)
  | missing {spellings : List String} (hspellings : spellings ∈ voc.required)
      (h : ∀ s ∈ spellings, ¬ HasKey v s)
  | unknown {e : YamlValue × YamlValue} (he : e ∈ v.recordEntries)
      (h : ∀ s, e.1.keyText? = some s → ∀ spellings ∈ voc.all, s ∉ spellings)

/-- The vocabulary is that of a kind of records, of which some fields must be there.

- `distinct`, `spelled`, `known`: every key of the records is a spelling, and the spellings of one key
  mean one field.
- `needed`: the keys that must be there are those of fields that must be there. -/
structure Describes {F : Type} (voc : Vocabulary) (kind : RecordKind F) (needed : F → Prop) :
    Prop where
  distinct : (kind.keys.map (·.1)).Nodup
  spelled : ∀ spellings ∈ voc.all, ∃ f, ∀ s ∈ spellings, (s, f) ∈ kind.keys
  known : ∀ e ∈ kind.keys, ∃ spellings ∈ voc.all, e.1 ∈ spellings
  needed : ∀ spellings ∈ voc.required, ∃ f, needed f ∧ ∀ e ∈ kind.keys, e.2 = f → e.1 ∈ spellings

end Vocabulary

/-! ## Keys and fields -/

section

variable {F : Type} {Value : F → Type} {value : (f : F) → YamlValue → Fit (Value f)}
  {kind : RecordKind F} {voc : Vocabulary} {needed : F → Prop} {v : YamlValue} {f : F}

/-- Keys are looked up as names are. -/
theorem lookup_eq_lookupName (keys : List (String × F)) (s : String) :
    keys.lookup s = lookupName s keys := by
  induction keys with
  | nil => rfl
  | cons e rest ih =>
    rw [List.lookup_cons, lookupName, ih]
    by_cases hs : e.1 = s
    · rw [if_pos hs, beq_iff_eq.2 hs.symm]
    · rw [if_neg hs, beq_eq_false_iff_ne.2 (Ne.symm hs)]

/-- Where no two keys are spelled alike, each means the field that it stands with. -/
theorem RecordKind.meaning_eq_some_iff (hkind : (kind.keys.map (·.1)).Nodup) {key : YamlValue} :
    kind.meaning key = some f ↔ ∃ s, key.keyText? = some s ∧ (s, f) ∈ kind.keys := by
  rw [meaning, Option.bind_eq_some_iff]
  refine exists_congr fun s => and_congr_right fun _ => ?_
  rw [lookup_eq_lookupName, lookupName_eq_some_iff hkind]

/-- Two spellings of a key mean one field. -/
theorem Vocabulary.Describes.meaning_congr (hvoc : voc.Describes kind needed)
    {spellings : List String} (hspellings : spellings ∈ voc.all) {key key' : YamlValue} {s t : String}
    (hs : s ∈ spellings) (ht : t ∈ spellings) (hkey : key.keyText? = some s)
    (hkey' : key'.keyText? = some t) : kind.meaning key = kind.meaning key' := by
  obtain ⟨f, hf⟩ := hvoc.spelled spellings hspellings
  have hmeans := (RecordKind.meaning_eq_some_iff hvoc.distinct).2 ⟨s, hkey, hf s hs⟩
  have hmeans' := (RecordKind.meaning_eq_some_iff hvoc.distinct).2 ⟨t, hkey', hf t ht⟩
  exact hmeans.trans hmeans'.symm

variable [DecidableEq F]

/-- Nothing is wrong with the keys of a record that can be read and has the fields that must be there. -/
theorem Vocabulary.Describes.not_misspelled (hvoc : voc.Describes kind needed)
    (hreadable : kind.Readable value v.recordEntries)
    (hneeded : ∀ f, needed f → kind.entryFor v.recordEntries f ≠ none) : ¬ voc.Misspelled v := by
  intro h
  cases h with
  | @twice spellings s t hspellings hs ht hne hhas hhas' =>
    obtain ⟨e, he, hkey⟩ := hhas
    obtain ⟨e', he', hkey'⟩ := hhas'
    have hmeans := hvoc.meaning_congr hspellings hs ht hkey hkey'
    obtain rfl : e = e' := List.inj_on_of_nodup_map hreadable.distinct he he' hmeans
    exact hne (Option.some.inj (hkey.symm.trans hkey'))
  | @missing spellings hspellings hnone =>
    obtain ⟨f, hf, hspelled⟩ := hvoc.needed spellings hspellings
    obtain ⟨w, hw⟩ := Option.ne_none_iff_exists'.1 (hneeded f hf)
    obtain ⟨e, he, hmeans, -⟩ := RecordKind.mem_of_entryFor hw
    obtain ⟨s, hs, hmem⟩ := (RecordKind.meaning_eq_some_iff hvoc.distinct).1 hmeans
    exact hnone s (hspelled (s, f) hmem rfl) ⟨e, he, hs⟩
  | @unknown e he hother =>
    obtain ⟨f, -, hf, -⟩ := hreadable.each e he
    obtain ⟨s, hs, hmem⟩ := (RecordKind.meaning_eq_some_iff hvoc.distinct).1 hf
    obtain ⟨spellings, hspellings, hmem⟩ := hvoc.known (s, f) hmem
    exact hother s hs spellings hspellings hmem

/-- What is under a field is found there. -/
theorem RecordKind.entryFor_ne_none {entries : List (YamlValue × YamlValue)}
    {x : Value f} (h : kind.fieldOf value entries f = some x) : kind.entryFor entries f ≠ none := by
  intro hnone
  rw [fieldOf, hnone] at h
  cases h

end

/-! ## The three records -/

namespace IntegrationDeclaration

/-- The keys of an integration. -/
def vocabulary : Vocabulary where
  required := [["name", "integration_name"], ["catalog_type"]]
  optional := [["table_format"], ["file_format"], ["external_volume"], ["adapter_properties"]]

theorem vocabulary_describes :
    vocabulary.Describes kind fun f => f = .name ∨ f = .catalogType := by
  refine ⟨by decide, ?_, by decide, ?_⟩
  · simp only [vocabulary, Vocabulary.all, List.cons_append, List.nil_append, List.forall_mem_cons]
    exact ⟨⟨.name, by decide⟩, ⟨.catalogType, by decide⟩, ⟨.tableFormat, by decide⟩,
      ⟨.fileFormat, by decide⟩, ⟨.externalVolume, by decide⟩, ⟨.properties, by decide⟩, by simp⟩
  · simp only [vocabulary, List.forall_mem_cons]
    exact ⟨⟨.name, .inl rfl, by decide⟩, ⟨.catalogType, .inr rfl, by decide⟩, by simp⟩

theorem not_misspelled {v : YamlValue} {d : IntegrationDeclaration} (h : ofDocument v = .ok d) :
    ¬ vocabulary.Misspelled v := by
  obtain ⟨entries, hentries, hspelled⟩ := ofDocument_eq_ok_iff.1 h
  obtain rfl := YamlValue.recordEntries_of_asEntries hentries
  refine vocabulary_describes.not_misspelled hspelled.readable ?_
  rintro f (rfl | rfl)
  · exact RecordKind.entryFor_ne_none hspelled.name
  · exact RecordKind.entryFor_ne_none hspelled.catalogType

end IntegrationDeclaration

namespace CatalogDeclaration

/-- The keys of a catalog. -/
def vocabulary : Vocabulary where
  required := [["name", "catalog_name"], ["active_write_integration"], ["write_integrations"]]
  optional := [["read_integrations"]]

theorem vocabulary_describes :
    vocabulary.Describes kind fun f => f = .name ∨ f = .active ∨ f = .writes := by
  refine ⟨by decide, ?_, by decide, ?_⟩
  · simp only [vocabulary, Vocabulary.all, List.cons_append, List.nil_append, List.forall_mem_cons]
    exact ⟨⟨.name, by decide⟩, ⟨.active, by decide⟩, ⟨.writes, by decide⟩, ⟨.reads, by decide⟩, by simp⟩
  · simp only [vocabulary, List.forall_mem_cons]
    exact ⟨⟨.name, .inl rfl, by decide⟩, ⟨.active, .inr (.inl rfl), by decide⟩,
      ⟨.writes, .inr (.inr rfl), by decide⟩, by simp⟩

theorem not_misspelled {v : YamlValue} {c : CatalogDeclaration} (h : ofDocument v = .ok c) :
    ¬ vocabulary.Misspelled v := by
  obtain ⟨entries, hentries, hspelled⟩ := ofDocument_eq_ok_iff.1 h
  obtain rfl := YamlValue.recordEntries_of_asEntries hentries
  refine vocabulary_describes.not_misspelled hspelled.readable ?_
  rintro f (rfl | rfl | rfl)
  · exact RecordKind.entryFor_ne_none hspelled.name
  · exact RecordKind.entryFor_ne_none hspelled.active
  · exact RecordKind.entryFor_ne_none hspelled.writes

end CatalogDeclaration

namespace Declarations

/-- The keys at the top. -/
def vocabulary : Vocabulary where
  required := [["catalogs"]]
  optional := []

theorem vocabulary_describes : vocabulary.Describes kind fun _ => True := by
  refine ⟨by decide, ?_, by decide, ?_⟩
  · simp only [vocabulary, Vocabulary.all, List.cons_append, List.nil_append, List.forall_mem_cons]
    exact ⟨⟨(), by decide⟩, by simp⟩
  · simp only [vocabulary, List.forall_mem_cons]
    exact ⟨⟨(), trivial, by decide⟩, by simp⟩

theorem not_misspelled {v : YamlValue} {d : Declarations} (h : ofDocument v = .ok d) :
    ¬ vocabulary.Misspelled v := by
  obtain ⟨entries, hentries, hspelled⟩ := ofDocument_eq_ok_iff.1 h
  obtain rfl := YamlValue.recordEntries_of_asEntries hentries
  exact vocabulary_describes.not_misspelled hspelled.readable fun _ _ =>
    RecordKind.entryFor_ne_none hspelled.catalogs

end Declarations

/-! ## Records within records -/

/-- The items of the lists under a key. -/
def YamlValue.itemsUnder (v : YamlValue) (s : String) : List YamlValue :=
  (v.recordEntries.filter fun e => e.1.keyText? = some s).flatMap fun e => e.2.listItems

theorem YamlValue.exists_of_asList {α : Type} {item : YamlValue → Fit α} {v w : YamlValue}
    {as : List α} (h : v.asList item = .ok as) (hw : w ∈ v.listItems) : ∃ a, item w = .ok a := by
  obtain ⟨items, hitems, hread⟩ := exists_of_bind_ok h
  obtain rfl := listItems_of_asItems hitems
  obtain ⟨a, -, ha⟩ := exists_of_mapM_ok hread hw
  exact ⟨a, ha⟩

/-- What is under a key is read as the values of the field that the key means. -/
theorem RecordKind.Readable.exists_of_mem_itemsUnder {F : Type} {Value : F → Type}
    {value : (f : F) → YamlValue → Fit (Value f)} {kind : RecordKind F} {v w : YamlValue} {s : String}
    {f : F} (h : kind.Readable value v.recordEntries) (hkind : (kind.keys.map (·.1)).Nodup)
    (hs : (s, f) ∈ kind.keys) (hw : w ∈ v.itemsUnder s) :
    ∃ list x, value f list = .ok x ∧ w ∈ list.listItems := by
  obtain ⟨e, he, hw⟩ := List.mem_flatMap.1 hw
  obtain ⟨hmem, hkey⟩ := List.mem_filter.1 he
  have hmeans := (meaning_eq_some_iff hkind).2 ⟨s, of_decide_eq_true hkey, hs⟩
  obtain ⟨g, x, hg, hx⟩ := h.each e hmem
  obtain rfl : f = g := Option.some.inj (hmeans.symm.trans hg)
  exact ⟨e.2, x, hx, hw⟩

/-- The integrations of a catalog, as documents. -/
def CatalogDeclaration.integrationsIn (v : YamlValue) : List YamlValue :=
  v.itemsUnder "write_integrations" ++ v.itemsUnder "read_integrations"

theorem CatalogDeclaration.exists_of_mem_integrationsIn {v w : YamlValue} {c : CatalogDeclaration}
    (h : ofDocument v = .ok c) (hw : w ∈ integrationsIn v) :
    ∃ d, IntegrationDeclaration.ofDocument w = .ok d := by
  obtain ⟨entries, hentries, hspelled⟩ := ofDocument_eq_ok_iff.1 h
  obtain rfl := YamlValue.recordEntries_of_asEntries hentries
  rcases List.mem_append.1 hw with hw | hw
  · obtain ⟨list, integrations, hlist, hw⟩ := hspelled.readable.exists_of_mem_itemsUnder
      vocabulary_describes.distinct (f := .writes) (by decide) hw
    exact YamlValue.exists_of_asList hlist hw
  · obtain ⟨list, integrations, hlist, hw⟩ := hspelled.readable.exists_of_mem_itemsUnder
      vocabulary_describes.distinct (f := .reads) (by decide) hw
    exact YamlValue.exists_of_asList hlist hw

namespace Declarations

/-- The catalogs of a document, as documents. -/
def catalogsIn (v : YamlValue) : List YamlValue :=
  v.itemsUnder "catalogs"

theorem exists_of_mem_catalogsIn {v w : YamlValue} {d : Declarations} (h : ofDocument v = .ok d)
    (hw : w ∈ catalogsIn v) : ∃ c, CatalogDeclaration.ofDocument w = .ok c := by
  obtain ⟨entries, hentries, hspelled⟩ := ofDocument_eq_ok_iff.1 h
  obtain rfl := YamlValue.recordEntries_of_asEntries hentries
  obtain ⟨list, catalogs, hlist, hw⟩ := hspelled.readable.exists_of_mem_itemsUnder
    vocabulary_describes.distinct (f := ()) (by decide) hw
  exact YamlValue.exists_of_asList hlist hw

/-- Something is wrong with the keys at the top of a document, of one of its catalogs or of one of their
integrations. -/
inductive Misspelled (v : YamlValue) : Prop
  | top (h : vocabulary.Misspelled v)
  | catalog {c : YamlValue} (hc : c ∈ catalogsIn v) (h : CatalogDeclaration.vocabulary.Misspelled c)
  | integration {c i : YamlValue} (hc : c ∈ catalogsIn v)
      (hi : i ∈ CatalogDeclaration.integrationsIn c)
      (h : IntegrationDeclaration.vocabulary.Misspelled i)

/-- A document is refused if something is wrong with the keys of its records. -/
theorem error_of_misspelled {v : YamlValue} (h : Misspelled v) :
    ∃ misfit, ofDocument v = .error misfit := by
  cases hread : ofDocument v with
  | error misfit => exact ⟨misfit, rfl⟩
  | ok d =>
    exfalso
    cases h with
    | top h => exact not_misspelled hread h
    | catalog hc h =>
      obtain ⟨c, hcatalog⟩ := exists_of_mem_catalogsIn hread hc
      exact CatalogDeclaration.not_misspelled hcatalog h
    | integration hc hi h =>
      obtain ⟨c, hcatalog⟩ := exists_of_mem_catalogsIn hread hc
      obtain ⟨d, hintegration⟩ := CatalogDeclaration.exists_of_mem_integrationsIn hcatalog hi
      exact IntegrationDeclaration.not_misspelled hintegration h

end Declarations

end Lakehouse
