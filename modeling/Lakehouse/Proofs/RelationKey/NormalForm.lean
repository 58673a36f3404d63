import Lakehouse.Proofs.Text.NormalForm
import Lakehouse.Proofs.Metadata.Rows
import Lakehouse.Text.Token

/-!
# Keys as normal forms

A warehouse reports the names of relations in a form of its own, and that may be the form that keys
have. A key is its own key, so such a name goes with every declaration of the relation.

- `RelationKey.relation`, `SchemaKey.asSchema`: the names in a key, taken as a declaration.
- `Row.relation`: the name that a row gives.
- `Text.lower_eq_lower_iff_of_ascii`: for ASCII texts, to be one text in lower case is to be one token.
- **`keys_are_normal_forms`**: a key is its own key, rows that give names in the form of keys are found
  with the declaration, and keys of ASCII names are equal exactly if the names are, up to the case of
  ASCII letters.
-/

namespace Lakehouse

/-! ## ASCII names -/

namespace Text

variable {s t : String}

/-- Nothing but ASCII characters. -/
def IsAscii (s : String) : Prop :=
  ∀ c ∈ s.toList, c.toNat < 0x80

-- by the characters of the text: instance search would run through all characters there are
instance (s : String) : Decidable (IsAscii s) :=
  List.decidableBAll (fun c : Char => c.toNat < 0x80) s.toList

/-- ASCII texts in lower case are texts with the ASCII letters in lower case. -/
theorem lower_eq_foldAscii (h : IsAscii s) : lower s = foldAscii s :=
  lower_of_ascii h

/-- ASCII texts are one text in lower case exactly if they are one token. -/
theorem lower_eq_lower_iff_of_ascii (hs : IsAscii s) (ht : IsAscii t) :
    lower s = lower t ↔ sameToken s t = true := by
  rw [lower_eq_foldAscii hs, lower_eq_foldAscii ht, sameToken, beq_iff_eq]

end Text

/-! ## Names in the form of keys -/

/-- The names in a key, as the names of a relation. -/
def RelationKey.relation (k : RelationKey) : Relation :=
  ⟨k.database, k.schema, k.identifier⟩

/-- The names in a key, as the names of a schema. -/
def SchemaKey.asSchema (k : SchemaKey) : Schema :=
  ⟨k.database, k.schema⟩

/-- A key is its own key. -/
@[simp] theorem Relation.key_relation (r : Relation) : r.key.relation.key = r.key := by
  simp only [key, RelationKey.of, RelationKey.relation, Text.lower_lower]

@[simp] theorem Schema.key_asSchema (s : Schema) : s.key.asSchema.key = s.key := by
  simp only [key, SchemaKey.of, SchemaKey.asSchema, Text.lower_lower]

theorem Relation.schemaKey_key (r : Relation) : r.key.schemaKey = r.schemaKey := rfl

/-- The name that a row gives to its relation. -/
def Row.relation (row : Row) : Relation :=
  ⟨row.text Batch.databaseColumn, row.text Batch.schemaColumn, row.text Batch.nameColumn⟩

theorem Row.key_eq (row : Row) : row.key = row.relation.key := rfl

theorem Row.relation_ofRelation (r : Relation) : (Row.ofRelation r).relation = r := rfl

/-- The relation has a name of ASCII characters. -/
structure Relation.IsAscii (r : Relation) : Prop where
  database : Text.IsAscii r.database
  schema : Text.IsAscii r.schema
  identifier : Text.IsAscii r.identifier

/-- The names are the same, up to the case of ASCII letters. -/
structure Relation.SameTokens (r r' : Relation) : Prop where
  database : Text.sameToken r.database r'.database = true
  schema : Text.sameToken r.schema r'.schema = true
  identifier : Text.sameToken r.identifier r'.identifier = true

variable {r r' : Relation}

theorem Relation.schemaKey_eq_iff (h : r.IsAscii) (h' : r'.IsAscii) :
    r.schemaKey = r'.schemaKey ↔
      Text.sameToken r.database r'.database = true ∧ Text.sameToken r.schema r'.schema = true := by
  rw [schemaKey, schemaKey, SchemaKey.of, SchemaKey.of, SchemaKey.mk.injEq,
    Text.lower_eq_lower_iff_of_ascii h.database h'.database,
    Text.lower_eq_lower_iff_of_ascii h.schema h'.schema]

theorem Relation.key_eq_iff (h : r.IsAscii) (h' : r'.IsAscii) :
    r.key = r'.key ↔ r.SameTokens r' := by
  rw [key, key, RelationKey.of, RelationKey.of, RelationKey.mk.injEq,
    Text.lower_eq_lower_iff_of_ascii h.database h'.database,
    Text.lower_eq_lower_iff_of_ascii h.schema h'.schema,
    Text.lower_eq_lower_iff_of_ascii h.identifier h'.identifier]
  exact ⟨fun ⟨hd, hs, hi⟩ => ⟨hd, hs, hi⟩, fun ⟨hd, hs, hi⟩ => ⟨hd, hs, hi⟩⟩

/-- A row that gives the name of a relation as declared, or in the form of its key. -/
def Row.Names (row : Row) (r : Relation) : Prop :=
  row.relation = r ∨ row.relation = r.key.relation

theorem Row.Names.key_eq {row : Row} (h : row.Names r) : row.key = r.key := by
  rw [Row.key_eq]
  obtain h | h := h
  · rw [h]
  · rw [h, Relation.key_relation]

/-- The rows that name a relation are found with it: the relation is among those that a collection is
about, and the rows are left exactly if the relation is wanted. -/
theorem Collection.found_of_names {c : Collection} (hkeyed : c.Keyed) {row : Row}
    (hrow : row ∈ c.rowList) (h : row.Names r) (only : List RelationKey) :
    (∃ keys, c.keys = .ok keys ∧ r.key ∈ keys) ∧
      ∃ left, c.retain only = .ok left ∧ (row ∈ left.rowList ↔ r.key ∈ only) := by
  refine ⟨⟨_, keys_eq hkeyed, ?_⟩, _, retain_eq_retained only hkeyed, ?_⟩
  · exact List.mem_map.2 ⟨row, hrow, h.key_eq⟩
  · rw [rowList_retained, List.mem_filter, h.key_eq, List.contains_iff_mem]
    exact and_iff_right hrow

/-- **Keys are normal forms.** The key of a key is the key, for relations, for schemas and for the
schema of a relation. A row that gives a name in the form of a key is about the relation with that
key, as a row is that gives the name as declared. The keys of ASCII names are equal exactly if the
names are, up to the case of ASCII letters. -/
theorem keys_are_normal_forms :
    (∀ r : Relation, r.key.relation.key = r.key ∧ r.key.schemaKey = r.schemaKey ∧
      r.key.schemaKey.asSchema.key = r.key.schemaKey) ∧
    (∀ s : Schema, s.key.asSchema.key = s.key) ∧
    (∀ (c : Collection) (r : Relation), c.Keyed → ∀ row ∈ c.rowList, row.Names r →
      row.key = r.key ∧ (∃ keys, c.keys = .ok keys ∧ r.key ∈ keys) ∧
        ∀ only, ∃ left, c.retain only = .ok left ∧ (row ∈ left.rowList ↔ r.key ∈ only)) ∧
    ∀ r r' : Relation, r.IsAscii → r'.IsAscii →
      (r.key = r'.key ↔ r.SameTokens r') ∧
      (r.schemaKey = r'.schemaKey ↔
        Text.sameToken r.database r'.database = true ∧
          Text.sameToken r.schema r'.schema = true) := by
  refine ⟨fun r => ⟨r.key_relation, r.schemaKey_key, ?_⟩, Schema.key_asSchema, ?_, ?_⟩
  · exact Schema.key_asSchema ⟨r.database, r.schema⟩
  · intro c r hkeyed row hrow hnames
    have hfound := Collection.found_of_names hkeyed hrow hnames
    exact ⟨hnames.key_eq, (hfound []).1, fun only => (hfound only).2⟩
  · intro r r' h h'
    exact ⟨Relation.key_eq_iff h h', Relation.schemaKey_eq_iff h h'⟩

/-- One batch, with a row for each relation of which nothing but the name is known. -/
def Collection.reporting (relations : List Relation) : Collection :=
  ⟨[.ofRelations relations], []⟩

theorem Collection.keyed_reporting (relations : List Relation) : (reporting relations).Keyed :=
  List.forall_mem_singleton.2 (Batch.hasKeyColumns_ofRelations relations)

theorem Collection.rowList_reporting (relations : List Relation) :
    (reporting relations).rowList = relations.map Row.ofRelation := by
  rw [rowList, reporting, List.flatMap_singleton, Batch.rowList_ofRelations]

/-- A street in Izmir: a capital that goes to two characters, and one that goes to another at the end of
a word. -/
def street : Relation := ⟨"Prod", "İzmir", "ΟΔΟΣ"⟩

theorem keys_are_normal_forms_street :
    street.key.relation = ⟨"prod", "i\u0307zmir", "οδος"⟩ ∧ street.key.relation.key = street.key ∧
      (∃ left, (Collection.reporting [street.key.relation]).retain [street.key] = .ok left ∧
        Row.ofRelation street.key.relation ∈ left.rowList) ∧
      Relation.key ⟨"DB", "S", "T_1"⟩ = Relation.key ⟨"db", "s", "t_1"⟩ := by
  obtain ⟨hkey, -, hrows, hascii⟩ := keys_are_normal_forms
  have hrow : Row.ofRelation street.key.relation ∈
      (Collection.reporting [street.key.relation]).rowList := by
    rw [Collection.rowList_reporting]
    exact List.mem_singleton_self _
  obtain ⟨-, -, hleft⟩ :=
    hrows _ street (Collection.keyed_reporting _) _ hrow (.inr (Row.relation_ofRelation _))
  obtain ⟨left, hretain, hmem⟩ := hleft [street.key]
  have hcapitals : Relation.IsAscii ⟨"DB", "S", "T_1"⟩ := ⟨by decide, by decide, by decide⟩
  have hsmall : Relation.IsAscii ⟨"db", "s", "t_1"⟩ := ⟨by decide, by decide, by decide⟩
  refine ⟨by decide +kernel, (hkey street).1, ⟨left, hretain, hmem.2 List.mem_cons_self⟩, ?_⟩
  exact (hascii _ _ hcapitals hsmall).1.2 ⟨by decide, by decide, by decide⟩

end Lakehouse
