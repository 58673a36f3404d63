import Lakehouse.Declaration.Document
import Lakehouse.Proofs.Answer

/-!
# What a record says

A record is read key by key into a draft, but what it says does not depend on that. A draft is a
partial map from fields, a key fills the field that it means, and no field is filled twice. So a record
can be read exactly if every key is known, every value can be read and no two keys mean one field, and
under a field is then what the value of its key is read as.

- `YamlValue.keyText?`, `YamlValue.recordEntries`, `YamlValue.listItems`: keys, entries and items,
  whatever tags are around them.
- `RecordKind.meaning`: the field that a key means. `RecordKind.entryFor`: the value whose key means a
  field.
- `Drafts`: drafts are partial maps that are filled field by field.
- `RecordKind.Readable`: a record that can be read.
- **`RecordKind.read_eq_ok`**, `RecordKind.exists_read`: what is read of a record, and when.
-/

namespace Lakehouse

namespace YamlValue

variable {v : YamlValue} {s : String} {expected : Expectation}

/-! ## Parts of a value -/

/-- A text, whatever tags are around it. -/
def keyText? (v : YamlValue) : Option String :=
  match v.untagged with
  | text s => some s
  | _ => none

/-- The entries of a map, whatever tags are around it. Nothing else has any. -/
def recordEntries (v : YamlValue) : List (YamlValue × YamlValue) :=
  match v.untagged with
  | map entries => entries
  | _ => []

/-- The items of a list, whatever tags are around it. Nothing else has any. -/
def listItems (v : YamlValue) : List YamlValue :=
  match v.untagged with
  | list items => items
  | _ => []

theorem asText_eq_ok_iff : v.asText expected = .ok s ↔ v.keyText? = some s := by
  rw [asText, keyText?]
  cases v.untagged <;> simp

theorem recordEntries_of_asEntries {entries : List (YamlValue × YamlValue)}
    (h : v.asEntries expected = .ok entries) : v.recordEntries = entries := by
  unfold asEntries at h
  unfold recordEntries
  split at h
  · next hmap =>
    rw [hmap]
    exact Except.ok.inj h
  · next hnull =>
    rw [hnull]
    exact Except.ok.inj h
  · cases h

theorem listItems_of_asItems {items : List YamlValue} (h : v.asItems = .ok items) :
    v.listItems = items := by
  unfold asItems at h
  unfold listItems
  split at h
  · next hlist =>
    rw [hlist]
    exact Except.ok.inj h
  · next hnull =>
    rw [hnull]
    exact Except.ok.inj h
  · cases h

theorem asEntries_of_map {entries : List (YamlValue × YamlValue)} (h : v.untagged = .map entries) :
    v.asEntries expected = .ok entries := by
  rw [asEntries, h]

theorem asItems_of_list {items : List YamlValue} (h : v.untagged = .list items) :
    v.asItems = .ok items := by
  rw [asItems, h]

end YamlValue

/-! ## Drafts -/

section

variable {F δ : Type} {Value : F → Type} {put : δ → F → YamlValue → Fit δ}
  {get : δ → (f : F) → Option (Value f)} {value : (f : F) → YamlValue → Fit (Value f)}

/-- Drafts are partial maps from fields, and what `put` puts under a field is what `value` reads of it.

- `exists_put`: a field that is not filled can be filled with what can be read.
- `empty`: only such a field can be filled.
- `filled`, `others`: then it is filled, and the other fields are as they were. -/
structure Drafts (put : δ → F → YamlValue → Fit δ) (get : δ → (f : F) → Option (Value f))
    (value : (f : F) → YamlValue → Fit (Value f)) : Prop where
  exists_put : ∀ {d f v x}, get d f = none → value f v = .ok x → ∃ d', put d f v = .ok d'
  empty : ∀ {d f v d'}, put d f v = .ok d' → get d f = none
  filled : ∀ {d f v d'}, put d f v = .ok d' → ∃ x, value f v = .ok x ∧ get d' f = some x
  others : ∀ {d f v d'}, put d f v = .ok d' → ∀ g, g ≠ f → get d' g = get d g

namespace RecordKind

variable {kind : RecordKind F} {key v : YamlValue} {f : F} {d d' blank : δ}
  {entries rest : List (YamlValue × YamlValue)}

/-- The field that a key means. -/
def meaning (kind : RecordKind F) (key : YamlValue) : Option F :=
  key.keyText?.bind fun name => kind.keys.lookup name

theorem field_eq_ok_iff : kind.field key = .ok f ↔ kind.meaning key = some f := by
  unfold field meaning
  cases hkey : key.keyText? with
  | none =>
    refine iff_of_false (fun h => ?_) (by simp)
    obtain ⟨name, hname, -⟩ := exists_of_bind_ok h
    rw [YamlValue.asText_eq_ok_iff, hkey] at hname
    cases hname
  | some name =>
    rw [YamlValue.asText_eq_ok_iff.2 hkey, Option.bind_some]
    simp only [bind, Except.bind]
    cases kind.keys.lookup name <;> simp

/-- What an entry adds to a draft. -/
def putEntry (kind : RecordKind F) (put : δ → F → YamlValue → Fit δ) (d : δ)
    (e : YamlValue × YamlValue) : Fit δ := do
  put d (← kind.field e.1) e.2

theorem putEntry_eq_ok_iff {e : YamlValue × YamlValue} : kind.putEntry put d e = .ok d' ↔
    ∃ f, kind.meaning e.1 = some f ∧ put d f e.2 = .ok d' := by
  unfold putEntry
  constructor
  · intro h
    obtain ⟨f, hf, hput⟩ := exists_of_bind_ok h
    exact ⟨f, field_eq_ok_iff.1 hf, hput⟩
  · rintro ⟨f, hf, hput⟩
    rw [field_eq_ok_iff.2 hf]
    exact hput

/-- The record can be read.

- `each`: every key is known, and every value can be read.
- `distinct`: no two keys mean one field. -/
structure Readable (kind : RecordKind F) (value : (f : F) → YamlValue → Fit (Value f))
    (entries : List (YamlValue × YamlValue)) : Prop where
  each : ∀ e ∈ entries, ∃ f x, kind.meaning e.1 = some f ∧ value f e.2 = .ok x
  distinct : (entries.map fun e => kind.meaning e.1).Nodup

/-- Entries that can be read are read after a draft that has not filled their fields. -/
theorem exists_foldlM (hdrafts : Drafts put get value) (h : kind.Readable value entries)
    (hfree : ∀ e ∈ entries, ∀ f, kind.meaning e.1 = some f → get d f = none) :
    ∃ d', entries.foldlM (kind.putEntry put) d = .ok d' := by
  induction entries generalizing d with
  | nil => exact ⟨d, rfl⟩
  | cons e rest ih =>
    obtain ⟨⟨f, x, hf, hx⟩, heach⟩ := List.forall_mem_cons.1 h.each
    obtain ⟨hnew, hdistinct⟩ := List.nodup_cons.1 h.distinct
    obtain ⟨hfirst, hothers⟩ := List.forall_mem_cons.1 hfree
    obtain ⟨next, hput⟩ := hdrafts.exists_put (hfirst f hf) hx
    obtain ⟨d', hd'⟩ := ih (d := next) ⟨heach, hdistinct⟩ fun e' he' g hg => by
      have hne : g ≠ f := by
        rintro rfl
        exact hnew (List.mem_map.2 ⟨e', he', hg.trans hf.symm⟩)
      rw [hdrafts.others hput g hne]
      exact hothers e' he' g hg
    refine ⟨d', ?_⟩
    rw [List.foldlM_cons, putEntry_eq_ok_iff.2 ⟨f, hf, hput⟩]
    exact hd'

variable [DecidableEq F]

/-- The value whose key means a field. -/
def entryFor (kind : RecordKind F) (entries : List (YamlValue × YamlValue)) (f : F) :
    Option YamlValue :=
  (entries.find? fun e => kind.meaning e.1 = some f).map Prod.snd

/-- What the value of a field is read as. -/
def fieldOf (kind : RecordKind F) (value : (f : F) → YamlValue → Fit (Value f))
    (entries : List (YamlValue × YamlValue)) (f : F) : Option (Value f) :=
  (kind.entryFor entries f).bind fun v => (value f v).toOption

theorem entryFor_cons (e : YamlValue × YamlValue) (f : F) : kind.entryFor (e :: rest) f =
    if kind.meaning e.1 = some f then some e.2 else kind.entryFor rest f := by
  rw [entryFor, List.find?_cons]
  by_cases h : kind.meaning e.1 = some f <;> simp [h, entryFor]

theorem entryFor_eq_none_iff :
    kind.entryFor entries f = none ↔ some f ∉ entries.map fun e => kind.meaning e.1 := by
  simp only [entryFor, Option.map_eq_none_iff, List.find?_eq_none, decide_eq_true_eq, List.mem_map,
    not_exists, not_and]

/-- Where no two keys mean one field, an entry is found under the field that its key means. -/
theorem entryFor_of_mem (h : (entries.map fun e => kind.meaning e.1).Nodup)
    {e : YamlValue × YamlValue} (he : e ∈ entries) (hf : kind.meaning e.1 = some f) :
    kind.entryFor entries f = some e.2 := by
  induction entries with
  | nil => cases he
  | cons first rest ih =>
    obtain ⟨hnew, hrest⟩ := List.nodup_cons.1 h
    rw [entryFor_cons]
    rcases List.mem_cons.1 he with rfl | he
    · rw [if_pos hf]
    · rw [if_neg, ih hrest he]
      intro hfirst
      exact hnew (List.mem_map.2 ⟨e, he, hf.trans hfirst.symm⟩)

theorem mem_of_entryFor (h : kind.entryFor entries f = some v) :
    ∃ e ∈ entries, kind.meaning e.1 = some f ∧ e.2 = v := by
  obtain ⟨e, he, rfl⟩ := Option.map_eq_some_iff.1 h
  exact ⟨e, List.mem_of_find?_eq_some he, by simpa using List.find?_some he, rfl⟩

/-- Under a field is what the value of its key is read as. -/
theorem fieldOf_of_mem (h : (entries.map fun e => kind.meaning e.1).Nodup)
    (he : (key, v) ∈ entries) (hf : kind.meaning key = some f) (hx : value f v = .ok x) :
    kind.fieldOf value entries f = some x := by
  rw [fieldOf, entryFor_of_mem h he hf, Option.bind_some, hx]
  rfl

theorem Readable.exists_fieldOf (h : kind.Readable value entries) (he : (key, v) ∈ entries)
    (hf : kind.meaning key = some f) :
    ∃ x, value f v = .ok x ∧ kind.fieldOf value entries f = some x := by
  obtain ⟨g, x, hg, hx⟩ := h.each _ he
  obtain rfl : f = g := Option.some.inj (hf.symm.trans hg)
  exact ⟨x, hx, fieldOf_of_mem h.distinct he hf hx⟩

/-- The entries that are read after a draft fill fields that it has not filled. -/
theorem of_foldlM (hdrafts : Drafts put get value)
    (h : entries.foldlM (kind.putEntry put) d = .ok d') :
    kind.Readable value entries ∧
      (∀ e ∈ entries, ∀ f, kind.meaning e.1 = some f → get d f = none) ∧
      ∀ f, get d' f = (get d f).or (kind.fieldOf value entries f) := by
  induction entries generalizing d with
  | nil =>
    obtain rfl := Except.ok.inj h
    exact ⟨⟨by simp, .nil⟩, by simp, fun f => by simp [fieldOf, entryFor]⟩
  | cons e rest ih =>
    rw [List.foldlM_cons] at h
    obtain ⟨next, hnext, hrest⟩ := exists_of_bind_ok h
    obtain ⟨f, hf, hput⟩ := putEntry_eq_ok_iff.1 hnext
    obtain ⟨x, hx, hget⟩ := hdrafts.filled hput
    have hothers := hdrafts.others hput
    obtain ⟨hreadable, hfree, hfound⟩ := ih hrest
    -- the field is filled now, and what is read after it fills only fields that are not
    have hnew : ∀ e' ∈ rest, kind.meaning e'.1 ≠ some f := by
      intro e' he' hsame
      have hnone := hfree e' he' f hsame
      rw [hget] at hnone
      cases hnone
    refine ⟨⟨List.forall_mem_cons.2 ⟨⟨f, x, hf, hx⟩, hreadable.each⟩, ?_⟩, ?_, ?_⟩
    · refine List.nodup_cons.2 ⟨fun hmem => ?_, hreadable.distinct⟩
      obtain ⟨e', he', hsame⟩ := List.mem_map.1 hmem
      exact hnew e' he' (hsame.trans hf)
    · refine List.forall_mem_cons.2 ⟨fun g hg => ?_, fun e' he' g hg => ?_⟩
      · obtain rfl : f = g := Option.some.inj (hf.symm.trans hg)
        exact hdrafts.empty hput
      · have hne : g ≠ f := fun heq => hnew e' he' (heq ▸ hg)
        rw [← hothers g hne]
        exact hfree e' he' g hg
    · intro g
      rw [hfound g, fieldOf, fieldOf, entryFor_cons]
      by_cases hg : g = f
      · subst hg
        rw [hget, hdrafts.empty hput, if_pos hf, Option.bind_some, hx]
        rfl
      · have hne : kind.meaning e.1 ≠ some g := fun h => hg (Option.some.inj (h.symm.trans hf))
        rw [hothers g hg, if_neg hne]

/-- **What is read of a record.** A record that is read can be read, and under each field of the draft is
what the value of its key is read as. -/
theorem read_eq_ok (hdrafts : Drafts put get value) (hblank : ∀ f, get blank f = none)
    (h : kind.read put blank v = .ok d) :
    ∃ entries, v.asEntries (.record kind.title) = .ok entries ∧ kind.Readable value entries ∧
      ∀ f, get d f = kind.fieldOf value entries f := by
  obtain ⟨entries, hentries, hread⟩ := exists_of_bind_ok h
  obtain ⟨hreadable, -, hfound⟩ := of_foldlM hdrafts hread
  refine ⟨entries, hentries, hreadable, fun f => ?_⟩
  rw [hfound f, hblank f, Option.none_or]

/-- A record that can be read is read. -/
theorem exists_read (hdrafts : Drafts put get value) (hblank : ∀ f, get blank f = none)
    (hentries : v.asEntries (.record kind.title) = .ok entries)
    (hreadable : kind.Readable value entries) :
    ∃ d, kind.read put blank v = .ok d ∧ ∀ f, get d f = kind.fieldOf value entries f := by
  obtain ⟨d, hread⟩ := exists_foldlM (d := blank) hdrafts hreadable fun e _ f _ => hblank f
  refine ⟨d, ?_, fun f => ?_⟩
  · rw [read, hentries]
    exact hread
  · rw [(of_foldlM hdrafts hread).2.2 f, hblank f, Option.none_or]

end RecordKind

end

/-! ## Fields that are filled once -/

theorem once_eq_ok_iff {α : Type} {key : String} {present o : Option α} {read : Fit α} :
    once key present read = .ok o ↔ present = none ∧ ∃ a, read = .ok a ∧ o = some a := by
  cases present with
  | some a => exact iff_of_false (by simp [once]) (by simp)
  | none => cases read <;> simp [once, Except.map, eq_comm]

theorem required_eq_ok_iff {α : Type} {key : String} {present : Option α} {a : α} :
    required key present = .ok a ↔ present = some a := by
  cases present <;> simp [required]

end Lakehouse
