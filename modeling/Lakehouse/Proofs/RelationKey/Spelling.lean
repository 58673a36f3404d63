import Lakehouse.Proofs.RelationKey.NormalForm
import Lakehouse.Proofs.Metadata.Scope
import Lakehouse.Proofs.Text.LetterCase

/-!
# Declarations that differ in letter case

Two declarations that differ in letter case only are meant to be of one relation. They are, unless the
case of a letter shows in lower case too: then they have two keys, a plan can name both, and what a
warehouse reports under one of them is not found under the other.

- `Relation.SpelledAlike`: the names differ in letter case only.
- `Relation.ShowsCase`: the case of a letter shows all the same.
- `mem_named`: the relations that a plan names.
- **`keys_ignore_case_unless_shown`**: two declarations that differ in letter case only are of one
  relation exactly if the case shows nowhere.
- `odos_is_two_relations`: the name of a street in capitals and in small letters.
-/

namespace Lakehouse

/-- The names differ in letter case only. -/
structure Relation.SpelledAlike (r r' : Relation) : Prop where
  database : Text.SameLetters r.database r'.database
  schema : Text.SameLetters r.schema r'.schema
  identifier : Text.SameLetters r.identifier r'.identifier

/-- The case of a letter shows in the name of the schema. -/
def Relation.SchemaShowsCase (r r' : Relation) : Prop :=
  Text.ShowsCase r.database r'.database ∨ Text.ShowsCase r.schema r'.schema

/-- The case of a letter shows in the name of the relation. -/
def Relation.ShowsCase (r r' : Relation) : Prop :=
  r.SchemaShowsCase r' ∨ Text.ShowsCase r.identifier r'.identifier

instance (r r' : Relation) : Decidable (r.SchemaShowsCase r') :=
  inferInstanceAs (Decidable (_ ∨ _))

instance (r r' : Relation) : Decidable (r.ShowsCase r') :=
  inferInstanceAs (Decidable (_ ∨ _))

variable {r r' : Relation} {relations : List Relation} {schemas : List Schema}

/-! ## Keys -/

theorem Relation.SpelledAlike.schemaKey_eq_iff (h : r.SpelledAlike r') :
    r.schemaKey = r'.schemaKey ↔ ¬ r.SchemaShowsCase r' := by
  rw [schemaKey, schemaKey, SchemaKey.of, SchemaKey.of, SchemaKey.mk.injEq,
    Text.lower_eq_lower_iff h.database, Text.lower_eq_lower_iff h.schema, SchemaShowsCase, not_or]

theorem Relation.SpelledAlike.key_eq_iff (h : r.SpelledAlike r') :
    r.key = r'.key ↔ ¬ r.ShowsCase r' := by
  rw [key, key, RelationKey.of, RelationKey.of, RelationKey.mk.injEq, ShowsCase, SchemaShowsCase,
    Text.lower_eq_lower_iff h.database, Text.lower_eq_lower_iff h.schema,
    Text.lower_eq_lower_iff h.identifier, not_or, not_or, and_assoc]

/-! ## Plans -/

/-- The relations that the tasks of a plan name. -/
def named (relations : List Relation) (schemas : List Schema) : List Relation :=
  (planTasks relations schemas).flatMap CatalogTask.relations

/-- A plan names the relations that come first with their key, if they are in use. -/
theorem mem_named :
    r ∈ named relations schemas ↔ r ∈ distinctBy Relation.key relations ∧ InUse schemas r.key := by
  rw [named, flatMap_relations_planTasks, List.mem_flatMap]
  constructor
  · rintro ⟨s, hs, hr⟩
    obtain ⟨hfirst, hin⟩ := List.mem_filter.1 hr
    refine ⟨hfirst, mem_map_distinctBy.1 (List.mem_map.2 ⟨s, hs, ?_⟩)⟩
    exact (beq_iff_eq.1 hin).symm
  · rintro ⟨hfirst, huse⟩
    obtain ⟨s, hs, hkey⟩ := List.mem_map.1 (mem_map_distinctBy.2 huse)
    refine ⟨s, hs, List.mem_filter.2 ⟨hfirst, beq_iff_eq.2 ?_⟩⟩
    exact hkey.symm

/-- A plan does not name two declarations of one relation. -/
theorem eq_of_mem_named (h : r ∈ named relations schemas) (h' : r' ∈ named relations schemas)
    (hkey : r.key = r'.key) : r = r' :=
  List.inj_on_of_nodup_map (nodup_relations_planTasks relations schemas) h h' hkey

/-- The schema of a relation, as declared with it. -/
def Relation.declaredSchema (r : Relation) : Schema :=
  ⟨r.database, r.schema⟩

/-- Two relations with their schemas are both named. -/
theorem mem_named_of_ne (h : r.key ≠ r'.key) :
    r ∈ named [r, r'] [r.declaredSchema, r'.declaredSchema] ∧
      r' ∈ named [r, r'] [r.declaredSchema, r'.declaredSchema] := by
  have hdistinct : distinctBy Relation.key [r, r'] = [r, r'] := by
    simp [distinctBy, distinctFrom, Ne.symm h]
  rw [mem_named, mem_named, hdistinct]
  refine ⟨⟨List.mem_cons_self, List.mem_cons_self⟩, ⟨?_, ?_⟩⟩
  · exact List.mem_cons_of_mem _ List.mem_cons_self
  · exact List.mem_cons_of_mem _ List.mem_cons_self

/-- Two declarations are of one relation exactly if no plan names both. -/
theorem forall_not_named_both_iff (hne : r ≠ r') :
    (∀ relations schemas, ¬ (r ∈ named relations schemas ∧ r' ∈ named relations schemas)) ↔
      r.key = r'.key := by
  constructor
  · intro h
    by_contra hkey
    exact h _ _ (mem_named_of_ne hkey)
  · rintro hkey relations schemas ⟨hr, hr'⟩
    exact hne (eq_of_mem_named hr hr' hkey)

/-! ## The theorem -/

/-- **Keys ignore letter case unless it shows.** Of two declarations that differ in letter case only:

- they have the same key exactly if the case shows nowhere in the name, and so it is with schemas;
- if they are two, no plan ever names both exactly if the case shows nowhere;
- a reported row that names the relation as one of them does is found under the other exactly if the
  case shows nowhere. -/
theorem keys_ignore_case_unless_shown (h : r.SpelledAlike r') :
    (r.key = r'.key ↔ ¬ r.ShowsCase r') ∧
      (r.schemaKey = r'.schemaKey ↔ ¬ r.SchemaShowsCase r') ∧
      (r ≠ r' →
        ((∀ relations schemas, ¬ (r ∈ named relations schemas ∧ r' ∈ named relations schemas)) ↔
          ¬ r.ShowsCase r')) ∧
      ∀ c : Collection, c.Keyed → ∀ row ∈ c.rowList, row.Names r' →
        ∃ left, c.retain [r.key] = .ok left ∧ (row ∈ left.rowList ↔ ¬ r.ShowsCase r') := by
  refine ⟨h.key_eq_iff, h.schemaKey_eq_iff, ?_, ?_⟩
  · intro hne
    rw [forall_not_named_both_iff hne, h.key_eq_iff]
  · intro c hkeyed row hrow hnames
    obtain ⟨-, left, hleft, hmem⟩ := Collection.found_of_names hkeyed hrow hnames [r.key]
    refine ⟨left, hleft, hmem.trans ?_⟩
    rw [List.mem_singleton, eq_comm, h.key_eq_iff]

/-- A name with a sigma at the beginning of a word, where it is like any other letter. -/
def sophia : Relation := ⟨"prod", "čeština", "σοφια"⟩

/-- The same name in capitals. -/
def sophiaInCapitals : Relation := ⟨"PROD", "ČEŠTINA", "ΣΟΦΙΑ"⟩

theorem keys_ignore_case_unless_shown_sophia :
    sophiaInCapitals.SpelledAlike sophia ∧ ¬ sophiaInCapitals.ShowsCase sophia ∧
      sophiaInCapitals ≠ sophia ∧ sophiaInCapitals.key = sophia.key ∧
      (∀ relations schemas,
        ¬ (sophiaInCapitals ∈ named relations schemas ∧ sophia ∈ named relations schemas)) ∧
      ∃ left, (Collection.reporting [sophia]).retain [sophiaInCapitals.key] = .ok left ∧
        Row.ofRelation sophia ∈ left.rowList := by
  have halike : sophiaInCapitals.SpelledAlike sophia :=
    ⟨by decide, by decide, by decide⟩
  have hshows : ¬ sophiaInCapitals.ShowsCase sophia := by decide
  have hne : sophiaInCapitals ≠ sophia := by decide
  obtain ⟨hkey, -, hplan, hrows⟩ := keys_ignore_case_unless_shown halike
  have hrow : Row.ofRelation sophia ∈ (Collection.reporting [sophia]).rowList := by
    rw [Collection.rowList_reporting]
    exact List.mem_singleton_self _
  obtain ⟨left, hleft, hmem⟩ :=
    hrows _ (Collection.keyed_reporting _) _ hrow (.inl (Row.relation_ofRelation _))
  exact ⟨halike, hshows, hne, hkey.2 hshows, (hplan hne).2 hshows, left, hleft, hmem.2 hshows⟩

/-- The name of a street, with the sigma that small letters have inside a word. -/
def odos : Relation := ⟨"db", "s", "οδοσ"⟩

/-- The same name in capitals, of which the last is the same for both small letters. -/
def odosInCapitals : Relation := ⟨"db", "s", "ΟΔΟΣ"⟩

/-- The names differ in letter case only, and are two relations: a plan names both, and what is reported
about one is not found under the other. -/
theorem odos_is_two_relations :
    odosInCapitals.SpelledAlike odos ∧ odosInCapitals.key = ⟨"db", "s", "οδος"⟩ ∧
      odos.key = ⟨"db", "s", "οδοσ"⟩ ∧ odosInCapitals.key ≠ odos.key ∧
      named [odosInCapitals, odos] [⟨"db", "s"⟩] = [odosInCapitals, odos] ∧
      ∃ left, (Collection.reporting [odos]).retain [odosInCapitals.key] = .ok left ∧
        left.rowList = [] := by
  have hcapitals : odosInCapitals.key = ⟨"db", "s", "οδος"⟩ := by decide +kernel
  have hsmall : odos.key = ⟨"db", "s", "οδοσ"⟩ := by decide
  have hne : odosInCapitals.key ≠ odos.key := by
    rw [hcapitals, hsmall]
    decide
  refine ⟨⟨by decide, by decide, by decide⟩, hcapitals, hsmall, hne, by decide +kernel, _,
    Collection.retain_eq_retained _ (Collection.keyed_reporting _), ?_⟩
  rw [Collection.rowList_retained, Collection.rowList_reporting]
  simp [Row.key_eq, Row.relation_ofRelation, hne.symm]

end Lakehouse
