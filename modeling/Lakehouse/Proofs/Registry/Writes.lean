import Lakehouse.Proofs.Declaration.Projected
import Lakehouse.Proofs.Registry.Run

/-!
# Writes through a registry

However a registry came about, every model that it resolves may be written exactly as far as the
catalog type of its relation allows, and what a project declares for reading is never written.

- `Registry.addAll_eq_ok`: declarations that are added together are calls, each of which succeeds,
  so that what is declared for reading is stored.
- `Registry.Reached`: a registry that is empty, or made from declarations, and called since.
- `Reached.exists_run`: it is an empty registry after some calls, and therefore `tracks_run` says
  what it stores.
- **`registries_write_safely`**: the relations that it resolves.
-/

namespace Lakehouse

variable {b : Backend}

namespace Registry

variable {r r' : Registry} {c : IntegrationConfig} {configs rest : List IntegrationConfig}

theorem addAll_cons_eq_ok_iff : r.addAll (c :: rest) = .ok r' ↔
    ∃ i next, r.add c = (.ok i, next) ∧ next.addAll rest = .ok r' := by
  rw [addAll]
  obtain ⟨result, next⟩ := r.add c
  cases result <;> simp

/-- Declarations that are added together are added one by one, and every one is stored. -/
theorem addAll_eq_ok (h : r.addAll configs = .ok r') :
    r' = r.run (configs.map .add) ∧ ∀ c ∈ configs, ∃ i,
      Integration.onBackend r.backend c = .ok i ∧ r'.get c.name = .ok i := by
  induction configs generalizing r with
  | nil =>
    obtain rfl := Except.ok.inj h
    exact ⟨rfl, by simp⟩
  | cons c rest ih =>
    obtain ⟨i, next, hadd, h⟩ := addAll_cons_eq_ok_iff.1 h
    obtain ⟨hrun, hrest⟩ := ih h
    have hadded := added_of_add_eq_ok hadd
    refine ⟨?_, List.forall_mem_cons.2 ⟨⟨i, hadded.built, ?_⟩, ?_⟩⟩
    · rw [hrun, List.map_cons, run_cons, after, hadd]
    · rw [hrun]
      exact get_run ((hadded.get c.name i).2 (.inl ⟨rfl, rfl⟩)) _
    · rwa [backend_of_add_eq_ok hadd] at hrest

/-! ## Registries that are reached -/

/-- A registry of a backend that is empty, or made from the declarations of some catalogs, and
called since. -/
inductive Reached (b : Backend) : List CatalogDeclaration → Registry → Prop
  | new {r : Registry} (h : new b = .ok r) : Reached b [] r
  | ofDeclarations {d : Declarations} {r : Registry} (h : ofDeclarations b d = .ok r) :
      Reached b d.catalogs r
  | after {catalogs : List CatalogDeclaration} {r : Registry} (h : Reached b catalogs r)
      (call : Call) : Reached b catalogs (r.after call)

/-- Every declaration for reading is stored under its name, as an integration that its config means.
-/
def StoresReads (b : Backend) (catalogs : List CatalogDeclaration) (r : Registry) : Prop :=
  ∀ catalog ∈ catalogs, ∀ read ∈ catalog.reads, ∃ config i,
    read.toConfig read.name false = .ok config ∧ Integration.onBackend b config = .ok i ∧
      r.get read.name = .ok i

variable {catalogs : List CatalogDeclaration}

/-- A registry that is reached is an empty one after some calls, and stores what is declared for
reading. -/
theorem Reached.exists_run (h : Reached b catalogs r) :
    (∃ fresh calls, Registry.new b = .ok fresh ∧ r = fresh.run calls) ∧
      StoresReads b catalogs r := by
  induction h with
  | @new r hnew => exact ⟨⟨r, [], hnew, rfl⟩, fun catalog hcatalog => by cases hcatalog⟩
  | @ofDeclarations d r hdeclared =>
    obtain ⟨fresh, hnew, hdeclared⟩ := exists_of_bind_ok hdeclared
    obtain ⟨configs, hconfigs, hadded⟩ := exists_of_bind_ok hdeclared
    obtain ⟨hrun, hstored⟩ := addAll_eq_ok hadded
    refine ⟨⟨fresh, configs.map .add, hnew, hrun⟩, fun catalog hcatalog read hread => ?_⟩
    obtain ⟨config, hmem, hconfig⟩ := Declarations.exists_config_of_read hconfigs hcatalog hread
    obtain ⟨i, hbuilt, hget⟩ := hstored config hmem
    have hbackend : fresh.backend = b := by
      obtain ⟨native, -, rfl⟩ := exists_of_map_ok hnew
      rfl
    obtain ⟨hname, -⟩ := IntegrationDeclaration.of_toConfig_eq_ok hconfig
    exact ⟨config, i, hconfig, hbackend ▸ hbuilt, hname ▸ hget⟩
  | @after catalogs r _ call ih =>
    obtain ⟨⟨fresh, calls, hnew, rfl⟩, hreads⟩ := ih
    refine ⟨⟨fresh, calls ++ [call], hnew, (run_append fresh calls call).symm⟩, ?_⟩
    intro catalog hcatalog read hread
    obtain ⟨config, i, hconfig, hbuilt, hget⟩ := hreads catalog hcatalog read hread
    exact ⟨config, i, hconfig, hbuilt, get_after hget call⟩

/-- The integration that a model is resolved through. -/
def integrationFor (r : Registry) (m : Model) : Answer Integration :=
  match m.catalogName with
  | none => .ok r.native
  | some name => r.get name

theorem resolve_eq (r : Registry) (m : Model) :
    r.resolve m = r.integrationFor m >>= fun i => i.resolve m := by
  unfold resolve integrationFor
  cases m.catalogName with
  | none => rfl
  | some name =>
    dsimp only
    cases r.get name <;> rfl

/-- A model is resolved by the integration that it is resolved through. -/
theorem exists_of_resolve_eq_ok {m : Model} {relation : StorageRelation}
    (h : r.resolve m = .ok relation) :
    ∃ i, r.integrationFor m = .ok i ∧ i.resolve m = .ok relation := by
  rw [resolve_eq] at h
  exact exists_of_bind_ok h

/-- Every integration of a registry is one that a declaration means. -/
theorem Reached.exists_onBackend (h : Reached b catalogs r) {m : Model} {i : Integration}
    (hi : r.integrationFor m = .ok i) : ∃ c, Integration.onBackend b c = .ok i := by
  obtain ⟨⟨fresh, calls, hnew, rfl⟩, -⟩ := h.exists_run
  have htracks := tracks_run hnew calls
  obtain ⟨native, hnative, rfl⟩ := exists_of_map_ok hnew
  unfold integrationFor at hi
  split at hi
  · obtain rfl := Except.ok.inj hi
    rw [htracks.native]
    exact ⟨nativeConfig, hnative⟩
  · next name _ =>
    have hfirst : firstBuilt? b name calls = some i :=
      (htracks.stored name).symm.trans (get_eq_ok_iff.1 hi)
    obtain ⟨earlier, c, later, -, -, hbuilt, -⟩ := firstBuilt?_eq_some_iff.1 hfirst
    exact ⟨c, hbuilt⟩

/-- Every integration of a registry is built from a declaration. -/
theorem Reached.exists_builtFrom (h : Reached b catalogs r) {m : Model} {i : Integration}
    (hi : r.integrationFor m = .ok i) : ∃ c, Integration.BuiltFrom c i := by
  obtain ⟨c, hbuilt⟩ := h.exists_onBackend hi
  exact ⟨c, Integration.builtFrom_of_onBackend hbuilt⟩

/-- The relations that a registry resolves may be written as far as they should be.

- `resolved`: a relation is resolved by one integration, and may be written as far as its catalog
  type and that integration allow.
- `reads`: what the catalogs declare for reading is stored, and no relation that is resolved through
  it may be written. -/
structure WritesSafely (b : Backend) (catalogs : List CatalogDeclaration) (r : Registry) :
    Prop where
  resolved : ∀ m relation, r.resolve m = .ok relation →
    ∃ i, r.integrationFor m = .ok i ∧ i.resolve m = .ok relation ∧ i.SafelyResolved relation
  reads : ∀ catalog ∈ catalogs, ∀ read ∈ catalog.reads, ∃ config i,
    read.toConfig read.name false = .ok config ∧ Integration.onBackend b config = .ok i ∧
      r.get read.name = .ok i ∧
      ∀ m relation, m.catalogName = some read.name → r.resolve m = .ok relation →
        relation.allowsWrites = false

end Registry

/-- Whatever a registry is made from and called with, no relation that it resolves may be written
through a catalog type that is only read, or through what was declared for reading. -/
theorem registries_write_safely {catalogs : List CatalogDeclaration} {r : Registry}
    (h : Registry.Reached b catalogs r) : Registry.WritesSafely b catalogs r := by
  have hresolved : ∀ m relation, r.resolve m = .ok relation →
      ∃ i, r.integrationFor m = .ok i ∧ i.resolve m = .ok relation ∧
        i.SafelyResolved relation := by
    intro m relation hrelation
    obtain ⟨i, hi, hrelation⟩ := Registry.exists_of_resolve_eq_ok hrelation
    obtain ⟨c, hbuilt⟩ := h.exists_builtFrom hi
    exact ⟨i, hi, hrelation, hbuilt.safelyResolved hrelation⟩
  refine ⟨hresolved, fun catalog hcatalog read hread => ?_⟩
  obtain ⟨config, i, hconfig, hbuilt, hget⟩ := h.exists_run.2 catalog hcatalog read hread
  refine ⟨config, i, hconfig, hbuilt, hget, fun m relation hm hrelation => ?_⟩
  obtain ⟨j, hj, -, hsafe⟩ := hresolved m relation hrelation
  have hsame : j = i := by
    simp only [Registry.integrationFor, hm, hget] at hj
    exact (Except.ok.inj hj).symm
  -- the config forbids writing, so that the integration is built for reading
  obtain ⟨-, hforbids, -⟩ := IntegrationDeclaration.of_toConfig_eq_ok hconfig
  have hreadOnly : i.allowsWrites = false := by
    cases Integration.builtFrom_of_onBackend hbuilt with
    | writing _ hwrites _ =>
      rw [hforbids] at hwrites
      cases hwrites
    | reading _ => rfl
  rw [hsafe.agrees, hsame, hreadOnly]

/-- A catalog that is written through the warehouse and read through a catalog service. -/
def lakeCatalog : CatalogDeclaration where
  name := "lake"
  active := "primary"
  writes := [{ name := "primary", catalogType := "BUILT_IN" }]
  reads := [{ name := "shared", catalogType := " Iceberg_Rest ", tableFormat := some "iceberg" }]

theorem registries_write_safely_lake :
    ∃ r, Registry.ofDeclarations .snowflake ⟨[lakeCatalog]⟩ = .ok r ∧
      let marked := r.after (.add (.plain "marked" .icebergRest))
      Registry.Reached .snowflake [lakeCatalog] marked ∧
        Registry.WritesSafely .snowflake [lakeCatalog] marked ∧
        (∃ relation, marked.resolve { catalogName := some "marked", storageUri := some "here" } =
          .ok relation ∧ relation.allowsWrites = false) ∧
        ∃ relation, marked.resolve { catalogName := some "lake", storageUri := some "here" } =
          .ok relation ∧ relation.allowsWrites = true := by
  obtain ⟨r, hr, hresolved⟩ : ∃ r, Registry.ofDeclarations .snowflake ⟨[lakeCatalog]⟩ = .ok r ∧
      let marked := r.after (.add (.plain "marked" .icebergRest))
      (∃ relation, marked.resolve { catalogName := some "marked", storageUri := some "here" } =
        .ok relation ∧ relation.allowsWrites = false) ∧
      ∃ relation, marked.resolve { catalogName := some "lake", storageUri := some "here" } =
        .ok relation ∧ relation.allowsWrites = true :=
    ⟨_, rfl, ⟨_, rfl, rfl⟩, _, rfl, rfl⟩
  have hreached : Registry.Reached .snowflake [lakeCatalog]
      (r.after (.add (.plain "marked" .icebergRest))) := .after (.ofDeclarations hr) _
  exact ⟨r, hr, hreached, registries_write_safely hreached, hresolved⟩

end Lakehouse
