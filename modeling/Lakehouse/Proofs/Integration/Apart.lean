import Lakehouse.Proofs.Integration.Precedence
import Mathlib.Data.List.Basic

/-!
# Locations of different tables

Where a table lies is made of a root or a volume, a schema, an identifier and, for managed tables, a
subpath that may be missing. Under one root and one volume, schemas and identifiers that are segments of
a path can be read back from the location, and so can the subpath: no two tables share one.

- `Text.IsSegment`: a text that is one step of a path. What follows it begins at the first slash
  (`append_slash_inj`).
- `tablePath`: the part of a location below the root, which determines what it is made of
  (`tablePath_inj`).
- `Integration.Apart`: two models lie in one place exactly if they are of one table.
- **`locations_do_not_collide`**: this is so for all models that say nothing else about their address.
-/

namespace Lakehouse

namespace Text

/-- One step of a path: a text without blanks around it and without slashes that is not empty. -/
structure IsSegment (s : String) : Prop where
  trimmed : trim s = s
  filled : s ≠ ""
  noSlash : '/' ∉ s.toList

variable {s t u v : String}

/-- The first slash is where a step of a path ends. -/
theorem append_slash_inj (hs : '/' ∉ s.toList) (ht : '/' ∉ t.toList) :
    s ++ "/" ++ u = t ++ "/" ++ v ↔ s = t ∧ u = v := by
  constructor
  · intro h
    have hlist : s.toList ++ '/' :: u.toList = t.toList ++ '/' :: v.toList := by
      simpa using congrArg String.toList h
    -- the shorter step ends at a slash, which the longer one cannot have
    have hstep : s.toList = t.toList := by
      rcases List.append_eq_append_iff.1 hlist with ⟨rest, hrest, hslash⟩ | ⟨rest, hrest, hslash⟩
      · cases rest with
        | nil => rw [hrest, List.append_nil]
        | cons c rest =>
          obtain ⟨rfl, -⟩ := List.cons.inj hslash
          exact absurd (hrest ▸ List.mem_append_right _ List.mem_cons_self) ht
      · cases rest with
        | nil => rw [hrest, List.append_nil]
        | cons c rest =>
          obtain ⟨rfl, -⟩ := List.cons.inj hslash
          exact absurd (hrest ▸ List.mem_append_right _ List.mem_cons_self) hs
    obtain rfl := String.toList_inj.1 hstep
    exact ⟨rfl, (String.append_right_inj _).1 h⟩
  · rintro ⟨rfl, rfl⟩
    rfl

/-- A slash tells a longer path from a step. -/
theorem ne_append_slash (hs : '/' ∉ s.toList) : s ≠ t ++ ("/" ++ u) := by
  rintro rfl
  exact hs (by simp)

end Text

open Text (IsSegment append_slash_inj ne_append_slash)

/-! ## Paths of tables -/

/-- The path of a table: its schema, its identifier, and a subpath if there is one. -/
def tablePath (schema identifier : String) (subpath : Option String) : String :=
  schema ++ "/" ++ (identifier ++ subpath.elim "" ("/" ++ ·))

/-- The path of a table determines its schema, its identifier and its subpath. The subpath may have
slashes in it. -/
theorem tablePath_inj {s t s' t' : String} {p p' : Option String} (hs : '/' ∉ s.toList)
    (hs' : '/' ∉ s'.toList) (ht : '/' ∉ t.toList) (ht' : '/' ∉ t'.toList) :
    tablePath s t p = tablePath s' t' p' ↔ s = s' ∧ t = t' ∧ p = p' := by
  rw [tablePath, tablePath, append_slash_inj hs hs']
  refine and_congr_right fun _ => ?_
  cases p with
  | none =>
    cases p' with
    | none => simp
    | some q' => simpa using ne_append_slash ht
  | some q =>
    cases p' with
    | none => simpa using (ne_append_slash ht').symm
    | some q' =>
      show t ++ ("/" ++ q) = t' ++ ("/" ++ q') ↔ _
      rw [← String.append_assoc, ← String.append_assoc, append_slash_inj ht ht', Option.some_inj]

/-- A subpath that is blank counts as none. -/
theorem bind_trimmed?_eq (subpath : Option String) :
    subpath.bind Text.trimmed? =
      if Text.trim (subpath.getD "") = "" then none else some (Text.trim (subpath.getD "")) := by
  cases subpath with
  | none => rfl
  | some p => exact Text.trimmed?_eq p

/-- A base location is the path of its table below a root, if the schema and the identifier are steps
of a path. -/
theorem baseLocation_eq_tablePath {schema identifier : String} (root subpath : Option String)
    (hschema : IsSegment schema) (hidentifier : IsSegment identifier) :
    baseLocation root subpath schema identifier =
      effectiveRoot root ++ "/" ++ tablePath schema identifier (subpath.bind Text.trimmed?) := by
  rw [baseLocation_eq, bind_trimmed?_eq]
  by_cases hblank : Text.trim (subpath.getD "") = ""
  · simp [hblank, hschema.trimmed, hschema.filled, hidentifier.trimmed, hidentifier.filled,
      tablePath, String.intercalate_cons_cons, String.append_assoc]
  · simp [hblank, hschema.trimmed, hschema.filled, hidentifier.trimmed, hidentifier.filled,
      tablePath, String.intercalate_cons_cons, String.append_assoc]

namespace Integration

/-- The model says nothing of the address of its table but a schema and an identifier, each of them one
step of a path. -/
structure Derives (m : Model) (schema identifier : String) : Prop where
  noUri : m.storageUri = none
  hasSchema : m.schema = some schema
  hasIdentifier : m.identifier = some identifier
  schemaSegment : IsSegment schema
  identifierSegment : IsSegment identifier

/-- The subpath that counts for a model, without blanks around it and unless it is blank. -/
def subpathOf (c : IntegrationConfig) (m : Model) : Option String :=
  (m.baseLocationSubpath.or (c.property? "base_location_subpath")).bind Text.trimmed?

/-- The root that counts for a model. -/
def rootOf (c : IntegrationConfig) (m : Model) : String :=
  effectiveRoot (m.baseLocationRoot.or (c.property? "base_location_root"))

/-- Two models lie in one place exactly if they are of one table.

- `base`, `managed`: managed tables, below one root. A table without a subpath is not the table with
  one.
- `registered`: registered tables, which have no subpath. -/
structure Apart (c : IntegrationConfig) (m m' : Model) (r r' : StorageRelation) : Prop where
  base : c.catalogType.behaviour = .managedExternal → rootOf c m = rootOf c m' →
    (r.baseLocation = r'.baseLocation ↔
      m.schema = m'.schema ∧ m.identifier = m'.identifier ∧ subpathOf c m = subpathOf c m')
  managed : c.catalogType.behaviour = .managedExternal → rootOf c m = rootOf c m' →
    ∀ uri, r.storageUri = some uri → (r'.storageUri = some uri ↔
      m.schema = m'.schema ∧ m.identifier = m'.identifier ∧ subpathOf c m = subpathOf c m')
  registered : c.catalogType.behaviour = .externalWritable → ∀ uri, r.storageUri = some uri →
    (r'.storageUri = some uri ↔ m.schema = m'.schema ∧ m.identifier = m'.identifier)

variable {b : Backend} {c : IntegrationConfig} {i : Integration} {m m' : Model}
  {r r' : StorageRelation} {s t s' t' : String}

theorem ManagedFields.baseLocation_eq (h : ManagedFields c m r) (hm : Derives m s t) :
    r.baseLocation = some (rootOf c m ++ "/" ++ tablePath s t (subpathOf c m)) := by
  rw [h.location s t hm.hasSchema hm.hasIdentifier, ← Lakehouse.baseLocation_eq,
    baseLocation_eq_tablePath _ _ hm.schemaSegment hm.identifierSegment]
  rfl

/-- Managed tables below one root have one base location exactly if they are one table. -/
theorem ManagedFields.baseLocation_inj (h : ManagedFields c m r) (h' : ManagedFields c m' r')
    (hm : Derives m s t) (hm' : Derives m' s' t') (hroot : rootOf c m = rootOf c m') :
    r.baseLocation = r'.baseLocation ↔
      m.schema = m'.schema ∧ m.identifier = m'.identifier ∧ subpathOf c m = subpathOf c m' := by
  rw [h.baseLocation_eq hm, h'.baseLocation_eq hm', hroot, Option.some_inj,
    String.append_right_inj, tablePath_inj hm.schemaSegment.noSlash hm'.schemaSegment.noSlash
      hm.identifierSegment.noSlash hm'.identifierSegment.noSlash]
  rw [hm.hasSchema, hm'.hasSchema, hm.hasIdentifier, hm'.hasIdentifier, Option.some_inj,
    Option.some_inj]

/-- Managed tables that have an address have one address exactly if they have one base location. -/
theorem ManagedFields.storageUri_inj (h : ManagedFields c m r) (h' : ManagedFields c m' r')
    (hm : Derives m s t) (hm' : Derives m' s' t')
    (htype : c.catalogType = .builtIn ∨ c.catalogType = .biglakeMetastore)
    (hvolume : r.externalVolume = r'.externalVolume) {uri : String} (huri : r.storageUri = some uri) :
    r'.storageUri = some uri ↔ r.baseLocation = r'.baseLocation := by
  rw [← huri]
  rcases htype with htype | htype
  · rw [h.builtIn hm.noUri htype, h'.builtIn hm'.noUri htype, eq_comm]
  · obtain ⟨base, hbase, haddress⟩ := h.prefixed hm.noUri htype
    obtain ⟨base', hbase', haddress'⟩ := h'.prefixed hm'.noUri htype
    rw [haddress] at huri
    obtain ⟨volume, hset, -⟩ := Option.map_eq_some_iff.1 huri
    rw [haddress, haddress', hbase, hbase', ← hvolume, hset]
    simp only [Option.map_some, Option.some_inj, String.append_right_inj]
    exact eq_comm

/-- Registered tables below one volume have one address exactly if they are one table. -/
theorem GlueFields.storageUri_inj (h : GlueFields c m r) (h' : GlueFields c m' r')
    (hm : Derives m s t) (hm' : Derives m' s' t') (hvolume : r.externalVolume = r'.externalVolume)
    {uri : String} (huri : r.storageUri = some uri) :
    r'.storageUri = some uri ↔ m.schema = m'.schema ∧ m.identifier = m'.identifier := by
  cases hset : r.externalVolume with
  | none =>
    rw [h.nowhere hm.noUri hset] at huri
    cases huri
  | some volume =>
    -- the slash at the end is an empty subpath
    have haddress : r.storageUri =
        some (Text.dropSlashesRight volume ++ "/" ++ tablePath s t (some "")) := by
      obtain ⟨schema, identifier, hschema, hidentifier, haddress⟩ := h.derived volume hm.noUri hset
      obtain rfl := Option.some.inj (hm.hasSchema.symm.trans hschema)
      obtain rfl := Option.some.inj (hm.hasIdentifier.symm.trans hidentifier)
      simp [haddress, tablePath, String.append_assoc]
    have haddress' : r'.storageUri =
        some (Text.dropSlashesRight volume ++ "/" ++ tablePath s' t' (some "")) := by
      obtain ⟨schema, identifier, hschema, hidentifier, haddress⟩ :=
        h'.derived volume hm'.noUri (hvolume.symm.trans hset)
      obtain rfl := Option.some.inj (hm'.hasSchema.symm.trans hschema)
      obtain rfl := Option.some.inj (hm'.hasIdentifier.symm.trans hidentifier)
      simp [haddress, tablePath, String.append_assoc]
    rw [← huri, haddress, haddress', Option.some_inj, String.append_right_inj,
      tablePath_inj hm'.schemaSegment.noSlash hm.schemaSegment.noSlash
        hm'.identifierSegment.noSlash hm.identifierSegment.noSlash, hm.hasSchema, hm'.hasSchema,
      hm.hasIdentifier, hm'.hasIdentifier, Option.some_inj, Option.some_inj]
    simp [eq_comm]

end Integration

/-! ## No two tables in one place -/

open Integration

/-- Two models that are resolved by one integration, below one volume, lie in one place exactly if they
are of one table. -/
theorem locations_do_not_collide {b : Backend} {c : IntegrationConfig} {i : Integration}
    {m m' : Model} {r r' : StorageRelation} {s t s' t' : String} (hbuilt : onBackend b c = .ok i)
    (hm : Derives m s t) (hm' : Derives m' s' t')
    (hvolume : m.externalVolume.or c.externalVolume = m'.externalVolume.or c.externalVolume)
    (hr : i.resolve m = .ok r) (hr' : i.resolve m' = .ok r') : Apart c m m' r r' := by
  have hmade := madeFrom_of_onBackend hbuilt
  have h := fieldByField_of_madeFrom hmade hr
  have h' := fieldByField_of_madeFrom hmade hr'
  have hshared : r.externalVolume = r'.externalVolume := by
    rw [h.common.externalVolume, h'.common.externalVolume, hvolume]
  have hbase (hbehaviour : c.catalogType.behaviour = .managedExternal) :=
    (h.managed hbehaviour).baseLocation_inj (h'.managed hbehaviour) hm hm'
  refine ⟨hbase, fun hbehaviour hroot uri huri => ?_, fun hbehaviour uri huri => ?_⟩
  · have htype := behaviour_eq_managedExternal_iff.1 hbehaviour
    rw [(h.managed hbehaviour).storageUri_inj (h'.managed hbehaviour) hm hm' htype hshared huri]
    exact hbase hbehaviour hroot
  · exact (h.glue hbehaviour).storageUri_inj (h'.glue hbehaviour) hm hm' hshared huri

/-- A model of one table in the bucket, with a subpath as it is written. -/
def partitionModel (subpath : String) : Model where
  schema := some "s"
  identifier := some "t"
  baseLocationSubpath := some subpath

/-- Blanks around a subpath do not make another table of it, and a blank subpath is none. -/
theorem locations_do_not_collide_bucket :
    ∃ i r r', onBackend .bigquery bucketConfig = .ok i ∧
      i.resolve (partitionModel " part ") = .ok r ∧ i.resolve (partitionModel "  ") = .ok r' ∧
      r.storageUri = some "gs://declared/warehouse/s/t/part" ∧
      r'.storageUri = some "gs://declared/warehouse/s/t" ∧
      Apart bucketConfig (partitionModel " part ") (partitionModel "  ") r r' := by
  have hderives : ∀ subpath, Derives (partitionModel subpath) "s" "t" := fun subpath =>
    ⟨rfl, rfl, rfl, ⟨by decide, by decide, by decide⟩, ⟨by decide, by decide, by decide⟩⟩
  obtain ⟨i, hbuilt, r, r', hr, hr', huri, huri'⟩ : ∃ i, onBackend .bigquery bucketConfig = .ok i ∧
      ∃ r r', i.resolve (partitionModel " part ") = .ok r ∧
        i.resolve (partitionModel "  ") = .ok r' ∧
        r.storageUri = some "gs://declared/warehouse/s/t/part" ∧
        r'.storageUri = some "gs://declared/warehouse/s/t" :=
    ⟨_, rfl, _, _, rfl, rfl, rfl, rfl⟩
  exact ⟨i, r, r', hbuilt, hr, hr', huri, huri',
    locations_do_not_collide hbuilt (hderives _) (hderives _) rfl hr hr'⟩

end Lakehouse
