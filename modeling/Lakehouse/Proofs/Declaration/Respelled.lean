import Lakehouse.Proofs.Declaration.Misspelled

/-!
# Documents that spell out the same

A record says the same with another spelling of a key, and without a key whose value says nothing. So it
is at every level of a document, and wherever the records within a record say the same.

- `Vocabulary.Respelled`: entries of a record with some keys spelled otherwise, some left out and some
  values replaced.
- `Vocabulary.Respelled.fieldOf_eq`: under each field is then what was under it, unless its key was left
  out.
- `IntegrationDeclaration.Respelled`, `CatalogDeclaration.Respelled`, `Declarations.Respelled`: documents
  that spell out the same.
- **`Declarations.ofDocument_respelled`**: they are read as the same declarations.
-/

namespace Lakehouse

/-! ## Respelled entries -/

/-- The entries of a record, with some keys in another spelling, without some keys whose values may be
left out, and with some values replaced by others that may stand for them. -/
inductive Vocabulary.Respelled (voc : Vocabulary) (mayLack : String → YamlValue → Prop)
    (standsFor : String → YamlValue → YamlValue → Prop) :
    List (YamlValue × YamlValue) → List (YamlValue × YamlValue) → Prop
  | nil : Respelled voc mayLack standsFor [] []
  | kept {key key' v v' : YamlValue} {s t : String} {entries entries' : List (YamlValue × YamlValue)}
      (hkey : key.keyText? = some s) (hkey' : key'.keyText? = some t)
      (hspelling : t = s ∨ ∃ spellings ∈ voc.all, s ∈ spellings ∧ t ∈ spellings)
      (hvalue : v' = v ∨ standsFor s v v') (rest : Respelled voc mayLack standsFor entries entries') :
      Respelled voc mayLack standsFor ((key, v) :: entries) ((key', v') :: entries')
  | leftOut {key v : YamlValue} {s : String} {entries entries' : List (YamlValue × YamlValue)}
      (hkey : key.keyText? = some s) (hlacks : mayLack s v)
      (rest : Respelled voc mayLack standsFor entries entries') :
      Respelled voc mayLack standsFor ((key, v) :: entries) entries'

section

variable {F : Type} {Value : F → Type} {value : (f : F) → YamlValue → Fit (Value f)}
  {kind : RecordKind F} {voc : Vocabulary} {needed : F → Prop} {mayLack : String → YamlValue → Prop}
  {standsFor : String → YamlValue → YamlValue → Prop} {entries entries' : List (YamlValue × YamlValue)}

theorem Vocabulary.Describes.meaning_respelled (hvoc : voc.Describes kind needed)
    {key key' : YamlValue} {s t : String} (hkey : key.keyText? = some s)
    (hkey' : key'.keyText? = some t)
    (h : t = s ∨ ∃ spellings ∈ voc.all, s ∈ spellings ∧ t ∈ spellings) :
    kind.meaning key' = kind.meaning key := by
  obtain rfl | ⟨spellings, hspellings, hs, ht⟩ := h
  · rw [RecordKind.meaning, RecordKind.meaning, hkey, hkey']
  · exact (hvoc.meaning_congr hspellings hs ht hkey hkey').symm

theorem Vocabulary.Describes.mem_keys_of_meaning (hvoc : voc.Describes kind needed) {key : YamlValue}
    {s : String} {f : F} (hkey : key.keyText? = some s) (hf : kind.meaning key = some f) :
    (s, f) ∈ kind.keys := by
  obtain ⟨s', hs, hmem⟩ := (RecordKind.meaning_eq_some_iff hvoc.distinct).1 hf
  obtain rfl := Option.some.inj (hkey.symm.trans hs)
  exact hmem

/-- A value that stands for another is read as it is. -/
theorem Vocabulary.Describes.value_respelled (hvoc : voc.Describes kind needed)
    (hvalue : ∀ s f v v' x, (s, f) ∈ kind.keys → standsFor s v v' → value f v = .ok x →
      value f v' = .ok x)
    {key v v' : YamlValue} {s : String} {f : F} {x : Value f} (hkey : key.keyText? = some s)
    (hf : kind.meaning key = some f) (hx : value f v = .ok x) (h : v' = v ∨ standsFor s v v') :
    value f v' = .ok x := by
  obtain rfl | hstands := h
  · exact hx
  · exact hvalue s f v v' x (hvoc.mem_keys_of_meaning hkey hf) hstands hx

/-- The keys that are left mean fields as they did. -/
theorem Vocabulary.Respelled.meanings_sublist (h : voc.Respelled mayLack standsFor entries entries')
    (hvoc : voc.Describes kind needed) :
    (entries'.map fun e => kind.meaning e.1).Sublist (entries.map fun e => kind.meaning e.1) := by
  induction h with
  | nil => exact .slnil
  | kept hkey hkey' hspelling _ _ ih =>
    rw [List.map_cons, List.map_cons, hvoc.meaning_respelled hkey hkey' hspelling]
    exact ih.cons_cons _
  | leftOut _ _ _ ih => exact ih.cons _

/-- A record that can be read can be read when it is respelled. -/
theorem Vocabulary.Respelled.readable (h : voc.Respelled mayLack standsFor entries entries')
    (hvoc : voc.Describes kind needed)
    (hvalue : ∀ s f v v' x, (s, f) ∈ kind.keys → standsFor s v v' → value f v = .ok x →
      value f v' = .ok x)
    (hreadable : kind.Readable value entries) : kind.Readable value entries' := by
  refine ⟨?_, (h.meanings_sublist hvoc).nodup hreadable.distinct⟩
  have heach := hreadable.each
  clear hreadable
  -- only that each entry can be read goes through the induction; that their fields are distinct is above
  induction h with
  | nil => simp
  | kept hkey hkey' hspelling hvalues _ ih =>
    obtain ⟨⟨f, x, hf, hx⟩, hrest⟩ := List.forall_mem_cons.1 heach
    refine List.forall_mem_cons.2 ⟨⟨f, x, ?_, ?_⟩, ih hrest⟩
    · exact (hvoc.meaning_respelled hkey hkey' hspelling).trans hf
    · exact hvoc.value_respelled hvalue hkey hf hx hvalues
  | leftOut _ _ _ ih => exact ih (List.forall_mem_cons.1 heach).2

variable [DecidableEq F]

theorem RecordKind.fieldOf_cons {f : F} (e : YamlValue × YamlValue) :
    kind.fieldOf value (e :: entries) f =
      if kind.meaning e.1 = some f then (value f e.2).toOption else kind.fieldOf value entries f := by
  rw [fieldOf, fieldOf, entryFor_cons]
  split <;> rfl

/-- Under each field of a respelled record is what was under it, where a key that may be left out says
what is said without it. -/
theorem Vocabulary.Respelled.fieldOf_or (unsaid : (f : F) → Option (Value f))
    (h : voc.Respelled mayLack standsFor entries entries') (hvoc : voc.Describes kind needed)
    (hvalue : ∀ s f v v' x, (s, f) ∈ kind.keys → standsFor s v v' → value f v = .ok x →
      value f v' = .ok x)
    (hlacks : ∀ s f v x, (s, f) ∈ kind.keys → mayLack s v → value f v = .ok x → unsaid f = some x)
    (hreadable : kind.Readable value entries) (f : F) :
    (kind.fieldOf value entries' f).or (unsaid f) = (kind.fieldOf value entries f).or (unsaid f) := by
  obtain ⟨heach, hdistinct⟩ := hreadable
  induction h with
  | nil => rfl
  | @kept key key' v v' s t entries entries' hkey hkey' hspelling hvalues _ ih =>
    obtain ⟨⟨g, x, hg, hx⟩, hrest⟩ := List.forall_mem_cons.1 heach
    have hg' := (hvoc.meaning_respelled hkey hkey' hspelling).trans hg
    have hread := hvoc.value_respelled hvalue hkey hg hx hvalues
    rw [RecordKind.fieldOf_cons, RecordKind.fieldOf_cons, hg, hg']
    by_cases hf : g = f
    · subst hf
      rw [if_pos rfl, if_pos rfl, hread, hx]
    · rw [if_neg (by simpa using hf), if_neg (by simpa using hf)]
      exact ih hrest (List.nodup_cons.1 hdistinct).2
  | @leftOut key v s entries entries' hkey hlacks' hrespelled ih =>
    obtain ⟨⟨g, x, hg, hx⟩, hrest⟩ := List.forall_mem_cons.1 heach
    obtain ⟨hnew, hdistinct⟩ := List.nodup_cons.1 hdistinct
    rw [RecordKind.fieldOf_cons, hg]
    by_cases hf : g = f
    · subst hf
      have hsaid := hlacks s g v x (hvoc.mem_keys_of_meaning hkey hg) hlacks' hx
      -- no other key means the field, so none that is left does
      have hnone : kind.entryFor entries' g = none := by
        refine RecordKind.entryFor_eq_none_iff.2 fun hmem => hnew ?_
        show kind.meaning (key, v).1 ∈ _
        rw [hg]
        exact (hrespelled.meanings_sublist hvoc).subset hmem
      rw [if_pos rfl, hx, RecordKind.fieldOf, hnone, hsaid]
      rfl
    · rw [if_neg (by simpa using hf)]
      exact ih hrest hdistinct

end

/-! ## Respelled documents -/

theorem join_eq_of_or_eq {α : Type} {o o' : Option (Option α)}
    (h : o.or (some none) = o'.or (some none)) : o.join = o'.join := by
  cases o <;> cases o' <;> simp_all

theorem getD_eq_of_or_eq {α : Type} {o o' : Option α} {a : α} (h : o.or (some a) = o'.or (some a)) :
    o.getD a = o'.getD a := by
  cases o <;> cases o' <;> simp_all

/-- Lists of as many items, of which each stands for the one at its place. -/
def YamlValue.ItemsStandFor (R : YamlValue → YamlValue → Prop) (v w : YamlValue) : Prop :=
  ∃ items items', v.untagged = .list items ∧ w.untagged = .list items' ∧ List.Forall₂ R items items'

theorem YamlValue.ItemsStandFor.asList {α : Type} {item : YamlValue → Fit α}
    {R : YamlValue → YamlValue → Prop} {v w : YamlValue} {as : List α}
    (hitem : ∀ v w a, R v w → item v = .ok a → item w = .ok a) (h : ItemsStandFor R v w)
    (hv : v.asList item = .ok as) : w.asList item = .ok as := by
  obtain ⟨items, items', hitems, hitems', hrelated⟩ := h
  rw [YamlValue.asList, asItems_of_list hitems] at hv
  rw [YamlValue.asList, asItems_of_list hitems']
  have hread := mapM_eq_ok_iff.1 hv
  refine mapM_eq_ok_iff.2 ?_
  clear hv hitems hitems'
  induction hrelated generalizing as with
  | nil => exact hread
  | cons hR _ ih =>
    cases hread with
    | cons hfirst hrest => exact .cons (hitem _ _ _ hR hfirst) (ih hrest)

namespace IntegrationDeclaration

/-- A key of an integration that may be left out: null for a format or a volume, or properties without an
entry. -/
def MayLack (s : String) (v : YamlValue) : Prop :=
  s ∈ ["table_format", "file_format", "external_volume"] ∧ v = .null ∨
    s = "adapter_properties" ∧ v.asEntries .map = .ok []

/-- An integration that is spelled otherwise, or is the same. -/
def Respelled (v w : YamlValue) : Prop :=
  w = v ∨ ∃ entries entries', v.untagged = .map entries ∧ w.untagged = .map entries' ∧
    vocabulary.Respelled MayLack (fun _ _ _ => False) entries entries'

/-- What is taken to be under a field whose key is not there, if it need not be. -/
def unsaid : (f : Field) → Option f.Value
  | .name => none
  | .catalogType => none
  | .tableFormat => some none
  | .fileFormat => some none
  | .externalVolume => some none
  | .properties => some .empty

theorem unsaid_of_mayLack (s : String) (f : Field) (v : YamlValue) (x : f.Value)
    (hf : (s, f) ∈ kind.keys) (h : MayLack s v) (hx : readField f v = .ok x) : unsaid f = some x := by
  rcases h with ⟨hs, rfl⟩ | ⟨rfl, hv⟩
  · have hformat : f ∈ [.tableFormat, .fileFormat, .externalVolume] := by
      simp only [List.mem_cons, List.not_mem_nil, or_false] at hs
      rcases hs with rfl | rfl | rfl <;> (simp [kind] at hf; simp [hf])
    simp only [List.mem_cons, List.not_mem_nil, or_false] at hformat
    rcases hformat with rfl | rfl | rfl <;> exact congrArg some (Except.ok.inj hx)
  · obtain rfl : f = .properties := by simpa [kind] using hf
    have hempty : v.asProperties = .ok .empty := by
      rw [YamlValue.asProperties, hv]
      rfl
    exact congrArg some (Except.ok.inj (hempty.symm.trans hx))

/-- What is spelled out depends on what is under the fields, or taken to be. -/
theorem SpelledBy.congr {d : IntegrationDeclaration} {entries entries' : List (YamlValue × YamlValue)}
    (hd : d.SpelledBy entries) (hreadable : kind.Readable readField entries')
    (h : ∀ f, (under entries' f).or (unsaid f) = (under entries f).or (unsaid f)) :
    d.SpelledBy entries' := by
  have hsaid : ∀ f, unsaid f = none → under entries' f = under entries f := by
    intro f hf
    have hsame := h f
    rwa [hf, Option.or_none, Option.or_none] at hsame
  exact {
    readable := hreadable
    name := (hsaid .name rfl).trans hd.name
    catalogType := (hsaid .catalogType rfl).trans hd.catalogType
    tableFormat := (join_eq_of_or_eq (h .tableFormat)).trans hd.tableFormat
    fileFormat := (join_eq_of_or_eq (h .fileFormat)).trans hd.fileFormat
    externalVolume := (join_eq_of_or_eq (h .externalVolume)).trans hd.externalVolume
    properties := (getD_eq_of_or_eq (h .properties)).trans hd.properties
  }

theorem ofDocument_respelled {v w : YamlValue} {d : IntegrationDeclaration} (h : Respelled v w)
    (hv : ofDocument v = .ok d) : ofDocument w = .ok d := by
  obtain rfl | ⟨entries, entries', hentries, hentries', h⟩ := h
  · exact hv
  have hvalue : ∀ s f v v' x, (s, f) ∈ kind.keys → False → readField f v = .ok x →
      readField f v' = .ok x := fun _ _ _ _ _ _ hfalse _ => hfalse.elim
  obtain ⟨_, hread, hd⟩ := ofDocument_eq_ok_iff.1 hv
  obtain rfl := Except.ok.inj ((YamlValue.asEntries_of_map hentries).symm.trans hread)
  refine ofDocument_eq_ok_iff.2 ⟨entries', YamlValue.asEntries_of_map hentries', hd.congr ?_ ?_⟩
  · exact h.readable vocabulary_describes hvalue hd.readable
  · exact h.fieldOf_or unsaid vocabulary_describes hvalue unsaid_of_mayLack hd.readable

end IntegrationDeclaration

namespace CatalogDeclaration

/-- A key of a catalog that may be left out: integrations to read through without an item. -/
def MayLack (s : String) (v : YamlValue) : Prop :=
  s = "read_integrations" ∧ v.asItems = .ok []

/-- Integrations of a catalog that stand for others. -/
def StandsFor (s : String) (v w : YamlValue) : Prop :=
  s ∈ ["write_integrations", "read_integrations"] ∧ v.ItemsStandFor IntegrationDeclaration.Respelled w

/-- A catalog that is spelled otherwise, or is the same. -/
def Respelled (v w : YamlValue) : Prop :=
  w = v ∨ ∃ entries entries', v.untagged = .map entries ∧ w.untagged = .map entries' ∧
    vocabulary.Respelled MayLack StandsFor entries entries'

/-- What is taken to be under a field whose key is not there, if it need not be. -/
def unsaid : (f : Field) → Option f.Value
  | .name => none
  | .active => none
  | .writes => none
  | .reads => some []

theorem unsaid_of_mayLack (s : String) (f : Field) (v : YamlValue) (x : f.Value)
    (hf : (s, f) ∈ kind.keys) (h : MayLack s v) (hx : readField f v = .ok x) : unsaid f = some x := by
  obtain ⟨rfl, hv⟩ := h
  obtain rfl : f = .reads := by simpa [kind] using hf
  have hempty : v.asList IntegrationDeclaration.ofDocument = .ok [] := by
    rw [YamlValue.asList, hv]
    rfl
  exact congrArg some (Except.ok.inj (hempty.symm.trans hx))

theorem readField_of_standsFor (s : String) (f : Field) (v w : YamlValue) (x : f.Value)
    (hf : (s, f) ∈ kind.keys) (h : StandsFor s v w) (hx : readField f v = .ok x) :
    readField f w = .ok x := by
  obtain ⟨hs, h⟩ := h
  have hitem := fun v w d => IntegrationDeclaration.ofDocument_respelled (v := v) (w := w) (d := d)
  rcases List.mem_pair.1 hs with rfl | rfl
  · obtain rfl : f = .writes := by simpa [kind] using hf
    exact h.asList hitem hx
  · obtain rfl : f = .reads := by simpa [kind] using hf
    exact h.asList hitem hx

theorem SpelledBy.congr {c : CatalogDeclaration} {entries entries' : List (YamlValue × YamlValue)}
    (hc : c.SpelledBy entries) (hreadable : kind.Readable readField entries')
    (h : ∀ f, (under entries' f).or (unsaid f) = (under entries f).or (unsaid f)) :
    c.SpelledBy entries' := by
  have hsaid : ∀ f, unsaid f = none → under entries' f = under entries f := by
    intro f hf
    have hsame := h f
    rwa [hf, Option.or_none, Option.or_none] at hsame
  exact {
    readable := hreadable
    name := (hsaid .name rfl).trans hc.name
    active := (hsaid .active rfl).trans hc.active
    writes := (hsaid .writes rfl).trans hc.writes
    reads := (getD_eq_of_or_eq (h .reads)).trans hc.reads
  }

theorem ofDocument_respelled {v w : YamlValue} {c : CatalogDeclaration} (h : Respelled v w)
    (hv : ofDocument v = .ok c) : ofDocument w = .ok c := by
  obtain rfl | ⟨entries, entries', hentries, hentries', h⟩ := h
  · exact hv
  obtain ⟨_, hread, hc⟩ := ofDocument_eq_ok_iff.1 hv
  obtain rfl := Except.ok.inj ((YamlValue.asEntries_of_map hentries).symm.trans hread)
  refine ofDocument_eq_ok_iff.2 ⟨entries', YamlValue.asEntries_of_map hentries', hc.congr ?_ ?_⟩
  · exact h.readable vocabulary_describes readField_of_standsFor hc.readable
  · exact h.fieldOf_or unsaid vocabulary_describes readField_of_standsFor unsaid_of_mayLack hc.readable

end CatalogDeclaration

namespace Declarations

/-- Catalogs that stand for others. -/
def StandsFor (s : String) (v w : YamlValue) : Prop :=
  s = "catalogs" ∧ v.ItemsStandFor CatalogDeclaration.Respelled w

/-- A document that is spelled otherwise, or is the same. Nothing may be left out at the top. -/
def Respelled (v w : YamlValue) : Prop :=
  w = v ∨ ∃ entries entries', v.untagged = .map entries ∧ w.untagged = .map entries' ∧
    vocabulary.Respelled (fun _ _ => False) StandsFor entries entries'

theorem readField_of_standsFor (s : String) (f : Unit) (v w : YamlValue) (x : List CatalogDeclaration)
    (_ : (s, f) ∈ kind.keys) (h : StandsFor s v w) (hx : readField f v = .ok x) :
    readField f w = .ok x :=
  h.2.asList (fun _ _ _ => CatalogDeclaration.ofDocument_respelled) hx

/-- **A document that is spelled otherwise is read as the same declarations.** -/
theorem ofDocument_respelled {v w : YamlValue} {d : Declarations} (h : Respelled v w)
    (hv : ofDocument v = .ok d) : ofDocument w = .ok d := by
  obtain rfl | ⟨entries, entries', hentries, hentries', h⟩ := h
  · exact hv
  obtain ⟨_, hread, hd⟩ := ofDocument_eq_ok_iff.1 hv
  obtain rfl := Except.ok.inj ((YamlValue.asEntries_of_map hentries).symm.trans hread)
  have hreadable := h.readable vocabulary_describes readField_of_standsFor hd.readable
  refine ofDocument_eq_ok_iff.2 ⟨entries', YamlValue.asEntries_of_map hentries', hreadable, ?_⟩
  have hsame := h.fieldOf_or (fun _ => none) vocabulary_describes readField_of_standsFor
    (fun _ _ _ _ _ hfalse _ => hfalse.elim) hd.readable ()
  rw [Option.or_none, Option.or_none] at hsame
  exact hsame.trans hd.catalogs

end Declarations

end Lakehouse
