import Lakehouse.Proofs.Declaration.Understood
import Lakehouse.Proofs.Declaration.WellFormed

/-!
# Integrations in use

Of the integrations that are declared for writing, a catalog uses the active one and looks at no other;
those for reading it uses all. What a project is projected onto depends on the integrations in use only,
and the first of them that is not understood is the reason for a failure.

- `CatalogDeclaration.uses`, `Declarations.uses`: the integrations in use, each under the name by which
  it is reached. Of declarations that keep the rules they are read one after another
  (`Declarations.WellFormed.configs_eq`).
- `Declarations.SameInUse`: declarations that differ in nothing but what is inside integrations that are
  not in use.
- **`projects_what_is_in_use`**: the configs of declarations that keep the rules, and why there are none.
-/

namespace Lakehouse

/-- An integration as it is reached: under a name, for writing or only for reading. -/
structure IntegrationUse where
  declaration : IntegrationDeclaration
  name : String
  allowsWrites : Bool

/-- What the integration comes to where it is reached. -/
def IntegrationUse.config (u : IntegrationUse) : Answer IntegrationConfig :=
  u.declaration.toConfig u.name u.allowsWrites

/-- An integration for reading is reached under its own name. -/
def IntegrationUse.reading (read : IntegrationDeclaration) : IntegrationUse :=
  ⟨read, read.name, false⟩

/-- The integrations in use of a catalog: the active one, under the name of the catalog, and then those
for reading. -/
def CatalogDeclaration.uses (c : CatalogDeclaration) : List IntegrationUse :=
  (c.writes.filter (·.name = c.active)).map (fun active => ⟨active, c.name, true⟩) ++
    c.reads.map IntegrationUse.reading

/-- The integrations in use, catalog by catalog. -/
def Declarations.uses (d : Declarations) : List IntegrationUse :=
  d.catalogs.flatMap (·.uses)

/-! ## Reading what is in use -/

namespace CatalogDeclaration

variable {c c' : CatalogDeclaration}

/-- Where no two integrations have one name, the first that has it is the only one. -/
theorem filter_name_eq {writes : List IntegrationDeclaration} (h : (writes.map (·.name)).Nodup)
    (name : String) :
    writes.filter (·.name = name) = (writes.find? fun w => w.name == name).toList := by
  induction writes with
  | nil => rfl
  | cons w rest ih =>
    obtain ⟨hnew, hrest⟩ := List.nodup_cons.1 h
    by_cases hname : w.name = name
    · have hothers : rest.filter (·.name = name) = [] := by
        refine List.filter_eq_nil_iff.2 fun other hother hsame => hnew ?_
        exact List.mem_map.2 ⟨other, hother, (of_decide_eq_true hsame).trans hname.symm⟩
      simp [hname, hothers]
    · simp [hname, ih hrest]

/-- A catalog that keeps the rules has one integration for writing that is called as its active one. -/
theorem WellFormed.filter_active (h : c.WellFormed) : ∃ active, c.activeWrite? = some active ∧
    c.writes.filter (·.name = c.active) = [active] := by
  obtain ⟨active, hactive⟩ : ∃ active, c.activeWrite? = some active := by
    obtain ⟨w, hw, hname⟩ := List.mem_map.1 h.active
    exact Option.isSome_iff_exists.1 (List.find?_isSome.2 ⟨w, hw, beq_iff_eq.2 hname⟩)
  have hdistinct := h.integrations.distinct
  rw [CatalogDeclaration.integrations, List.map_append] at hdistinct
  refine ⟨active, hactive, ?_⟩
  have hfound : (c.writes.find? fun w => w.name == c.active) = some active := hactive
  rw [filter_name_eq hdistinct.of_append_left, hfound]
  rfl

/-- A catalog that keeps the rules uses its active integration, and no other for writing. -/
theorem WellFormed.exists_active (h : c.WellFormed) : ∃ active, c.activeWrite? = some active ∧
    c.uses = ⟨active, c.name, true⟩ :: c.reads.map IntegrationUse.reading := by
  obtain ⟨active, hactive, hfilter⟩ := h.filter_active
  refine ⟨active, hactive, ?_⟩
  rw [uses, hfilter]
  rfl

/-- The configs of a catalog are those of the integrations in use. -/
theorem WellFormed.configs_eq (h : c.WellFormed) : c.configs = c.uses.mapM IntegrationUse.config := by
  obtain ⟨active, hactive, huses⟩ := h.exists_active
  rw [huses, List.mapM_cons, List.mapM_map, CatalogDeclaration.configs, hactive]
  simp only [IntegrationUse.config, IntegrationUse.reading, Function.comp_def]

end CatalogDeclaration

namespace Declarations

variable {d d' : Declarations} {path : String} {f : Failure}

/-- The configs of declarations that keep the rules are those of the integrations in use. -/
theorem WellFormed.configs_eq (h : d.WellFormed) : d.configs = d.uses.mapM IntegrationUse.config := by
  have heach : d.catalogs.mapM CatalogDeclaration.configs =
      d.catalogs.mapM fun c => c.uses.mapM IntegrationUse.config :=
    mapM_congr (List.forall₂_same.2 fun c hc => (h.each c hc).configs_eq)
  rw [Declarations.configs, heach, mapM_flatMap]
  rfl

/-- There are configs exactly if every integration in use is understood. -/
theorem WellFormed.exists_configs_iff (h : d.WellFormed) :
    (∃ configs, d.configs = .ok configs) ↔ ∀ u ∈ d.uses, u.declaration.Understood := by
  rw [h.configs_eq]
  constructor
  · rintro ⟨configs, hconfigs⟩ u hu
    obtain ⟨config, -, hconfig⟩ := exists_of_mapM_ok hconfigs hu
    exact IntegrationDeclaration.exists_toConfig_iff.1 ⟨config, hconfig⟩
  · intro hunderstood
    cases hconfigs : d.uses.mapM IntegrationUse.config with
    | ok configs => exact ⟨configs, rfl⟩
    | error f =>
      obtain ⟨earlier, u, later, huses, -, hfails⟩ := mapM_eq_error_iff.1 hconfigs
      have hu : u ∈ d.uses := huses ▸ List.mem_append_right _ List.mem_cons_self
      obtain ⟨config, hconfig⟩ := IntegrationDeclaration.exists_toConfig_iff.2 (hunderstood u hu)
      exact absurd (hconfig.symm.trans hfails) (by simp)

/-- Where there are no configs, the first integration in use that is not understood says why. -/
theorem WellFormed.configs_eq_error_iff (h : d.WellFormed) : d.configs = .error f ↔
    ∃ earlier u later fault, d.uses = earlier ++ u :: later ∧
      (∀ e ∈ earlier, e.declaration.Understood) ∧ u.declaration.Fault fault ∧
        f = u.declaration.inContext fault := by
  rw [h.configs_eq, mapM_eq_error_iff]
  simp only [IntegrationUse.config, IntegrationDeclaration.exists_toConfig_iff,
    IntegrationDeclaration.toConfig_eq_error_iff, exists_and_left]

end Declarations

/-! ## What is not in use -/

/-- Two catalogs that differ in nothing but what is inside their integrations for writing that are not
active. -/
structure CatalogDeclaration.SameInUse (c c' : CatalogDeclaration) : Prop where
  name : c'.name = c.name
  active : c'.active = c.active
  writes : List.Forall₂ (fun w w' => w'.name = w.name ∧ (w.name = c.active → w' = w))
    c.writes c'.writes
  reads : c'.reads = c.reads

/-- Declarations that differ in nothing but what is inside integrations that are not in use. -/
def Declarations.SameInUse (d d' : Declarations) : Prop :=
  List.Forall₂ CatalogDeclaration.SameInUse d.catalogs d'.catalogs

/-- What is called by a name is found, whatever is inside the others. -/
theorem find?_name_congr {name : String} {writes writes' : List IntegrationDeclaration}
    (h : List.Forall₂ (fun w w' => w'.name = w.name ∧ (w.name = name → w' = w)) writes writes') :
    (writes'.find? fun w => w.name == name) = writes.find? fun w => w.name == name := by
  induction h with
  | nil => rfl
  | @cons w w' _ _ hsame _ ih =>
    obtain ⟨hname, hactive⟩ := hsame
    by_cases hw : w.name = name
    · obtain rfl := hactive hw
      simp [hw]
    · simp [hname, hw, ih]

theorem CatalogDeclaration.SameInUse.configs_eq {c c' : CatalogDeclaration} (h : c.SameInUse c') :
    c'.configs = c.configs := by
  have hactive : c'.activeWrite? = c.activeWrite? := by
    rw [activeWrite?, activeWrite?, h.active, find?_name_congr h.writes]
  rw [configs, configs, hactive, activeNotFound, activeNotFound, h.name, h.active, h.reads]

theorem Declarations.SameInUse.configs_eq {d d' : Declarations} (h : d.SameInUse d') :
    d'.configs = d.configs := by
  have heach : d.catalogs.mapM CatalogDeclaration.configs =
      d'.catalogs.mapM CatalogDeclaration.configs :=
    mapM_congr (h.imp fun c c' hc => hc.configs_eq.symm)
  rw [Declarations.configs, Declarations.configs, heach]

/-! ## Projecting -/

/-- What the declarations of a project come to.

- `uses`: a catalog uses one of its integrations for writing, the one that is called as it says, and
  all for reading.
- `succeeds_iff`, `means`: there are configs exactly if every integration in use is understood, and they
  are what these mean, in order.
- `fails_iff`: if there are none, the first integration in use that is not understood is named with what
  is wrong with it.
- `ignores`: the others make no difference. -/
structure Declarations.ProjectsInUse (d : Declarations) : Prop where
  uses : ∀ c ∈ d.catalogs, ∃ active ∈ c.writes, active.name = c.active ∧
    c.uses = ⟨active, c.name, true⟩ :: c.reads.map fun read => ⟨read, read.name, false⟩
  succeeds_iff : (∃ configs, d.configs = .ok configs) ↔ ∀ u ∈ d.uses, u.declaration.Understood
  means : ∀ configs, d.configs = .ok configs →
    List.Forall₂ (fun u config => u.declaration.Means u.name u.allowsWrites config) d.uses configs
  fails_iff : ∀ f, d.configs = .error f ↔
    ∃ earlier u later fault, d.uses = earlier ++ u :: later ∧
      (∀ e ∈ earlier, e.declaration.Understood) ∧ u.declaration.Fault fault ∧
        f = {
          kind := fault.kind
          message := "Integration '" ++ u.declaration.name ++ "': " ++ fault.message }
  ignores : ∀ d', d.SameInUse d' → d'.configs = d.configs

/-- Declarations that keep the rules are projected onto what is in use, catalog by catalog, or the first
integration in use that is not understood is the reason that they are not. -/
theorem projects_what_is_in_use {d : Declarations} {path : String} (h : d.validate path = .ok ()) :
    d.ProjectsInUse := by
  have hrules := Declarations.validate_eq_ok_iff.1 h
  refine
    { uses := fun c hc => ?_
      succeeds_iff := hrules.exists_configs_iff
      means := fun configs hconfigs => ?_
      fails_iff := fun f => hrules.configs_eq_error_iff
      ignores := fun d' hsame => hsame.configs_eq }
  · obtain ⟨active, hactive, huses⟩ := (hrules.each c hc).exists_active
    obtain ⟨hwrite, hname⟩ := CatalogDeclaration.of_activeWrite?_eq_some hactive
    exact ⟨active, hwrite, hname, huses⟩
  · rw [hrules.configs_eq, mapM_eq_ok_iff] at hconfigs
    exact hconfigs.imp fun u config hconfig => IntegrationDeclaration.means_of_toConfig hconfig

/-- An integration of a catalog type that nothing knows. -/
def unknownIntegration : IntegrationDeclaration where
  name := "old"
  catalogType := "hive"

/-- An integration with a property under a tag, and one that is null under its tag. -/
def taggedIntegration : IntegrationDeclaration where
  name := "primary"
  catalogType := " Built_In "
  properties :=
    .ofList [("change_tracking", .tagged "flag" (.bool true)), ("note", .tagged "none" .null)]

/-- A catalog that is written through the second of its integrations, and reads one under its name. -/
def mixedCatalog (read : IntegrationDeclaration) : CatalogDeclaration where
  name := "lake"
  active := "primary"
  writes := [unknownIntegration, taggedIntegration]
  reads := [read]

/-- An integration for reading, with a volume that is blank. -/
def sharedIntegration : IntegrationDeclaration where
  name := "shared"
  catalogType := "iceberg_rest"
  externalVolume := some " "

/-- What nothing knows does not matter where it is not in use. Where it is read, it is a failure. -/
theorem projects_what_is_in_use_mixed :
    (Declarations.validate "catalogs.yml" ⟨[mixedCatalog sharedIntegration]⟩ = .ok () ∧
      Declarations.ProjectsInUse ⟨[mixedCatalog sharedIntegration]⟩ ∧
      (Declarations.configs ⟨[mixedCatalog sharedIntegration]⟩).map (·.map fun c =>
          (c.name, c.allowsWrites, c.externalVolume, c.properties.entries)) =
        .ok [("lake", true, none, [("change_tracking", "true")]), ("shared", false, none, [])]) ∧
    Declarations.validate "catalogs.yml" ⟨[mixedCatalog { unknownIntegration with name := "lost" }]⟩ =
        .ok () ∧
      Declarations.ProjectsInUse ⟨[mixedCatalog { unknownIntegration with name := "lost" }]⟩ ∧
      ∃ f, Declarations.configs ⟨[mixedCatalog { unknownIntegration with name := "lost" }]⟩ = .error f ∧
        f.kind = .notSupported := by
  have hshared : Declarations.validate "catalogs.yml" ⟨[mixedCatalog sharedIntegration]⟩ = .ok () := by
    rfl
  have hlost : Declarations.validate "catalogs.yml"
      ⟨[mixedCatalog { unknownIntegration with name := "lost" }]⟩ = .ok () := by
    rfl
  exact ⟨⟨hshared, projects_what_is_in_use hshared, rfl⟩, hlost, projects_what_is_in_use hlost,
    _, rfl, rfl⟩

end Lakehouse
