import Lakehouse.Declaration.Projection
import Lakehouse.Proofs.Answer

/-!
# What declarations are projected onto

A catalog has one config for its active integration, under the catalog's own name, and one for each
of its integrations for reading. The configs of all catalogs follow one another.

- `CatalogDeclaration.of_configs_eq_ok`: the configs of one catalog.
- `Declarations.names`: the names under which configs are found, whatever is in them
  (`Declarations.map_name_configs`).
- `Declarations.exists_config_of_active`, `Declarations.exists_config_of_read`: every active
  integration and every integration for reading has a config.
-/

namespace Lakehouse

/-- A config has the name and the right to write that the declaration is read with, and a volume unless
it is blank. -/
theorem IntegrationDeclaration.of_toConfig_eq_ok {d : IntegrationDeclaration} {name : String}
    {allowsWrites : Bool} {config : IntegrationConfig}
    (h : d.toConfig name allowsWrites = .ok config) :
    config.name = name ∧ config.allowsWrites = allowsWrites ∧
      config.externalVolume = d.externalVolume.bind Text.unlessBlank := by
  have h := eq_ok_of_mapError_ok h
  obtain ⟨catalogType, -, h⟩ := exists_of_bind_ok h
  obtain ⟨tableFormat, -, h⟩ := exists_of_bind_ok h
  obtain ⟨fileFormat, -, h⟩ := exists_of_bind_ok h
  obtain ⟨texts, -, h⟩ := exists_of_bind_ok h
  obtain rfl := Except.ok.inj h
  exact ⟨rfl, rfl, rfl⟩

/-! ## One catalog -/

namespace CatalogDeclaration

variable {c : CatalogDeclaration} {configs : List IntegrationConfig}

/-- The names under which the configs of a catalog are found. -/
def names (c : CatalogDeclaration) : List String :=
  c.name :: c.reads.map (·.name)

/-- The configs of a catalog are that of its active integration and those for reading. -/
theorem of_configs_eq_ok (h : c.configs = .ok configs) :
    ∃ active write reads, c.activeWrite? = some active ∧
      active.toConfig c.name true = .ok write ∧
      (c.reads.mapM fun read => read.toConfig read.name false) = .ok reads ∧
      configs = write :: reads := by
  unfold CatalogDeclaration.configs at h
  split at h
  · cases h
  · next active hactive =>
    obtain ⟨write, hwrite, h⟩ := exists_of_bind_ok h
    obtain ⟨reads, hreads, h⟩ := exists_of_bind_ok h
    obtain rfl := Except.ok.inj h
    exact ⟨active, write, reads, hactive, hwrite, hreads, rfl⟩

theorem map_name_configs (h : c.configs = .ok configs) : configs.map (·.name) = c.names := by
  obtain ⟨active, write, reads, -, hwrite, hreads, rfl⟩ := of_configs_eq_ok h
  have hnames : reads.map (·.name) = c.reads.map (·.name) :=
    map_eq_map_of_mapM_ok (fun read config h => (IntegrationDeclaration.of_toConfig_eq_ok h).1) hreads
  rw [List.map_cons, hnames, (IntegrationDeclaration.of_toConfig_eq_ok hwrite).1, names]

/-- The active integration is one for writing that is called so. -/
theorem of_activeWrite?_eq_some {active : IntegrationDeclaration}
    (h : c.activeWrite? = some active) : active ∈ c.writes ∧ active.name = c.active := by
  refine ⟨List.mem_of_find?_eq_some h, ?_⟩
  have hname := List.find?_some h
  exact eq_of_beq hname

end CatalogDeclaration

/-! ## All catalogs -/

namespace Declarations

variable {d : Declarations} {configs : List IntegrationConfig}

/-- The names under which configs are found, catalog by catalog. -/
def names (d : Declarations) : List String :=
  d.catalogs.flatMap (·.names)

theorem map_name_configs (h : d.configs = .ok configs) : configs.map (·.name) = d.names := by
  obtain ⟨all, hall, rfl⟩ := exists_of_map_ok h
  have hnames : all.map (·.map (·.name)) = d.catalogs.map (·.names) :=
    map_eq_map_of_mapM_ok (fun catalog own h => CatalogDeclaration.map_name_configs h) hall
  rw [List.map_flatten, hnames, names, List.flatMap_def]

/-- The configs of a catalog are among those of all. -/
theorem exists_configs_of_mem (h : d.configs = .ok configs) {catalog : CatalogDeclaration}
    (hcatalog : catalog ∈ d.catalogs) :
    ∃ own, catalog.configs = .ok own ∧ ∀ c ∈ own, c ∈ configs := by
  obtain ⟨all, hall, rfl⟩ := exists_of_map_ok h
  obtain ⟨own, hmem, hown⟩ := exists_of_mapM_ok hall hcatalog
  exact ⟨own, hown, fun c hc => List.mem_flatten_of_mem hmem hc⟩

/-- Among the configs of declarations is one for each active integration. -/
theorem exists_config_of_active (h : d.configs = .ok configs) {catalog : CatalogDeclaration}
    (hcatalog : catalog ∈ d.catalogs) :
    ∃ active, catalog.activeWrite? = some active ∧
      ∃ config ∈ configs, active.toConfig catalog.name true = .ok config := by
  obtain ⟨own, hown, hmem⟩ := exists_configs_of_mem h hcatalog
  obtain ⟨active, write, reads, hactive, hwrite, -, rfl⟩ := CatalogDeclaration.of_configs_eq_ok hown
  exact ⟨active, hactive, write, hmem write List.mem_cons_self, hwrite⟩

/-- Among the configs of declarations is one for each declaration for reading. -/
theorem exists_config_of_read (h : d.configs = .ok configs) {catalog : CatalogDeclaration}
    (hcatalog : catalog ∈ d.catalogs) {read : IntegrationDeclaration} (hread : read ∈ catalog.reads) :
    ∃ config ∈ configs, read.toConfig read.name false = .ok config := by
  obtain ⟨own, hown, hmem⟩ := exists_configs_of_mem h hcatalog
  obtain ⟨active, write, reads, -, -, hreads, rfl⟩ := CatalogDeclaration.of_configs_eq_ok hown
  obtain ⟨config, hconfig, hread⟩ := exists_of_mapM_ok hreads hread
  exact ⟨config, hmem config (List.mem_cons_of_mem _ hconfig), hread⟩

end Declarations

end Lakehouse
