import Lakehouse.Proofs.Declaration.WellFormed
import Lakehouse.Proofs.Registry.Writes

/-!
# What a registry has of its declarations

Declarations are checked catalog by catalog, but a registry has one namespace for all of them: the
names of catalogs and of what they read. Making a registry of declarations therefore fails where two
catalogs meet under one name, though each of them keeps the rules.

- `Registry.Addable`: configs that an empty registry takes in together. It does so exactly if the
  backend can work with each and no two have one name (`exists_addAll_iff`).
- `Registry.names_of_addAll`: the names that are stored then.
- `Registry.addAll_eq_error_iff`: otherwise the first config that cannot be added fails.
- **`declarations_register_all`**: a registry that is made of declarations has all of them and
  nothing else, or there is none, because of the first of them that could not be added.
-/

namespace Lakehouse

open scoped List

namespace Registry

variable {b : Backend} {r r' : Registry} {c : IntegrationConfig} {i : Integration}
  {configs rest : List IntegrationConfig} {f : Failure} {d : Declarations}

/-! ## Adding one config after another -/

theorem nodup_names (r : Registry) : r.names.Nodup :=
  NameMap.nodup_names r.integrations

/-- Adding a config adds its name. -/
theorem Added.names_perm (h : Added r r' c i) : r'.names ~ c.name :: r.names := by
  rw [List.perm_ext_iff_of_nodup (nodup_names r') (List.nodup_cons.2 ⟨h.free, nodup_names r⟩)]
  intro name
  rw [h.names, List.mem_cons]

theorem fst_add_eq_error_iff : (r.add c).1 = .error f ↔
    c.name ∈ r.names ∧ f = taken c.name ∨
      c.name ∉ r.names ∧ Integration.onBackend r.backend c = .error f := by
  by_cases hmem : c.name ∈ r.names
  · simp [add_of_mem hmem, hmem, eq_comm]
  · rw [fst_add_of_not_mem hmem]
    simp [hmem]

/-- The names that are stored are those of the configs and those that were stored before. -/
theorem names_of_addAll (h : r.addAll configs = .ok r') :
    r'.names ~ configs.map (·.name) ++ r.names := by
  induction configs generalizing r with
  | nil =>
    obtain rfl := Except.ok.inj h
    exact .refl _
  | cons c rest ih =>
    obtain ⟨i, next, hadd, hrest⟩ := addAll_cons_eq_ok_iff.1 h
    have hnext := (added_of_add_eq_ok hadd).names_perm
    calc r'.names
      _ ~ rest.map (·.name) ++ next.names := ih hrest
      _ ~ rest.map (·.name) ++ c.name :: r.names := hnext.append_left _
      _ ~ (c :: rest).map (·.name) ++ r.names := List.perm_middle

theorem backend_of_addAll (h : r.addAll configs = .ok r') : r'.backend = r.backend := by
  induction configs generalizing r with
  | nil =>
    obtain rfl := Except.ok.inj h
    rfl
  | cons c rest ih =>
    obtain ⟨i, next, hadd, hrest⟩ := addAll_cons_eq_ok_iff.1 h
    exact (ih hrest).trans (backend_of_add_eq_ok hadd)

/-- Configs that an empty registry takes in together: the backend can work with each, and no two
have one name. -/
structure Addable (b : Backend) (configs : List IntegrationConfig) : Prop where
  built : ∀ c ∈ configs, ∃ i, Integration.onBackend b c = .ok i
  distinct : (configs.map (·.name)).Nodup

theorem addable_cons : Addable b (c :: rest) ↔
    (∃ i, Integration.onBackend b c = .ok i) ∧ c.name ∉ rest.map (·.name) ∧ Addable b rest := by
  constructor
  · rintro ⟨hbuilt, hdistinct⟩
    obtain ⟨hc, hrest⟩ := List.forall_mem_cons.1 hbuilt
    obtain ⟨hnew, hdistinct⟩ := List.nodup_cons.1 hdistinct
    exact ⟨hc, hnew, hrest, hdistinct⟩
  · rintro ⟨hc, hnew, hrest, hdistinct⟩
    exact ⟨List.forall_mem_cons.2 ⟨hc, hrest⟩, List.nodup_cons.2 ⟨hnew, hdistinct⟩⟩

/-- A config can be added if the backend can work with it and its name is free. -/
theorem exists_add_iff : (∃ i next, r.add c = (.ok i, next)) ↔
    c.name ∉ r.names ∧ ∃ i, Integration.onBackend r.backend c = .ok i := by
  constructor
  · rintro ⟨i, next, hadd⟩
    obtain ⟨hfree, hbuilt, -⟩ := of_add_eq_ok hadd
    exact ⟨hfree, i, hbuilt⟩
  · rintro ⟨hfree, i, hbuilt⟩
    exact ⟨i, (r.add c).2, Prod.ext ((fst_add_of_not_mem hfree).trans hbuilt) rfl⟩

/-- Configs are added together exactly if each can be built, and no name is given twice or taken. -/
theorem exists_addAll_iff : (∃ r', r.addAll configs = .ok r') ↔
    Addable r.backend configs ∧ ∀ c ∈ configs, c.name ∉ r.names := by
  induction configs generalizing r with
  | nil => exact iff_of_true ⟨r, rfl⟩ ⟨⟨by simp, .nil⟩, by simp⟩
  | cons c rest ih =>
    rw [addable_cons, List.forall_mem_cons]
    constructor
    · rintro ⟨r', h⟩
      obtain ⟨i, next, hadd, hrest⟩ := addAll_cons_eq_ok_iff.1 h
      have hadded := added_of_add_eq_ok hadd
      obtain ⟨haddable, hfree⟩ := ih.1 ⟨r', hrest⟩
      rw [backend_of_add_eq_ok hadd] at haddable
      have hnew : ∀ other ∈ rest, other.name ≠ c.name ∧ other.name ∉ r.names :=
        fun other hother => not_or.1 fun h => hfree other hother ((hadded.names _).2 h)
      refine ⟨⟨⟨i, hadded.built⟩, fun hmem => ?_, haddable⟩, hadded.free,
        fun other hother => (hnew other hother).2⟩
      obtain ⟨other, hother, hname⟩ := List.mem_map.1 hmem
      exact (hnew other hother).1 hname
    · rintro ⟨⟨hbuilt, hnew, haddable⟩, hfree, hothers⟩
      obtain ⟨i, next, hadd⟩ := exists_add_iff.2 ⟨hfree, hbuilt⟩
      have hadded := added_of_add_eq_ok hadd
      have hbackend := backend_of_add_eq_ok hadd
      have hrest : ∀ other ∈ rest, other.name ∉ next.names := by
        intro other hother hmem
        rcases (hadded.names _).1 hmem with hname | hmem
        · exact hnew (List.mem_map.2 ⟨other, hother, hname⟩)
        · exact hothers other hother hmem
      obtain ⟨r', h⟩ := ih.2 ⟨hbackend ▸ haddable, hrest⟩
      exact ⟨r', addAll_cons_eq_ok_iff.2 ⟨i, next, hadd, h⟩⟩

/-- Where configs are not added together, the first that cannot be added fails. -/
theorem addAll_eq_error_iff : r.addAll configs = .error f ↔
    ∃ earlier c later r', configs = earlier ++ c :: later ∧ r.addAll earlier = .ok r' ∧
      (r'.add c).1 = .error f := by
  constructor
  · intro h
    induction configs generalizing r with
    | nil => cases h
    | cons c rest ih =>
      rcases hadd : r.add c with ⟨result, next⟩
      rw [addAll, hadd] at h
      cases result with
      | error g =>
        obtain rfl : g = f := Except.error.inj h
        exact ⟨[], c, rest, r, rfl, rfl, congrArg Prod.fst hadd⟩
      | ok i =>
        obtain ⟨earlier, c', later, r', rfl, hearlier, hfails⟩ := ih h
        exact ⟨c :: earlier, c', later, r', rfl, addAll_cons_eq_ok_iff.2 ⟨i, next, hadd, hearlier⟩,
          hfails⟩
  · rintro ⟨earlier, c, later, r', rfl, hearlier, hfails⟩
    induction earlier generalizing r with
    | nil =>
      obtain rfl := Except.ok.inj hearlier
      rcases hadd : r.add c with ⟨result, next⟩
      obtain rfl : result = .error f := (congrArg Prod.fst hadd).symm.trans hfails
      rw [List.nil_append, addAll, hadd]
    | cons first rest ih =>
      obtain ⟨i, next, hadd, hrest⟩ := addAll_cons_eq_ok_iff.1 hearlier
      rw [List.cons_append, addAll, hadd]
      exact ih hrest

/-! ## Making a registry of declarations -/

/-- A registry is made of declarations by adding their configs to an empty one. -/
theorem exists_ofDeclarations_eq (b : Backend) : ∃ fresh : Registry,
    fresh.names = [] ∧ fresh.backend = b ∧ ∀ d, ofDeclarations b d = d.configs >>= fresh.addAll := by
  obtain ⟨fresh, hnew, hempty, hbackend⟩ := exists_new b
  refine ⟨fresh, hempty, hbackend, fun d => ?_⟩
  rw [ofDeclarations, hnew]
  rfl

/-- The names that are stored are those of the declarations. -/
theorem names_of_ofDeclarations (h : ofDeclarations b d = .ok r) : r.names ~ d.names := by
  obtain ⟨fresh, hempty, -, hof⟩ := exists_ofDeclarations_eq b
  rw [hof] at h
  obtain ⟨configs, hconfigs, h⟩ := exists_of_bind_ok h
  have hnames := names_of_addAll h
  rwa [hempty, List.append_nil, Declarations.map_name_configs hconfigs] at hnames

/-- A registry is made of declarations if they have configs that can be added. -/
theorem exists_ofDeclarations_iff : (∃ r, ofDeclarations b d = .ok r) ↔
    ∃ configs, d.configs = .ok configs ∧ Addable b configs := by
  obtain ⟨fresh, hempty, hbackend, hof⟩ := exists_ofDeclarations_eq b
  have hadd : ∀ configs, (∃ r, fresh.addAll configs = .ok r) ↔ Addable b configs := by
    intro configs
    rw [exists_addAll_iff, hbackend, hempty]
    simp
  constructor
  · rintro ⟨r, h⟩
    rw [hof] at h
    obtain ⟨configs, hconfigs, h⟩ := exists_of_bind_ok h
    exact ⟨configs, hconfigs, (hadd configs).1 ⟨r, h⟩⟩
  · rintro ⟨configs, hconfigs, haddable⟩
    obtain ⟨r, h⟩ := (hadd configs).2 haddable
    refine ⟨r, ?_⟩
    rw [hof, hconfigs]
    exact h

/-- A config fails behind others that have been added, because its name is one of theirs or because
it cannot be built. -/
def FailsBehind (b : Backend) (earlier : List IntegrationConfig) (c : IntegrationConfig)
    (f : Failure) : Prop :=
  c.name ∈ earlier.map (·.name) ∧ f = taken c.name ∨
    c.name ∉ earlier.map (·.name) ∧ Integration.onBackend b c = .error f

theorem fst_add_eq_error_iff_failsBehind {earlier : List IntegrationConfig} (hempty : r.names = [])
    (h : r.addAll earlier = .ok r') :
    (r'.add c).1 = .error f ↔ FailsBehind r.backend earlier c f := by
  have hmem : c.name ∈ r'.names ↔ c.name ∈ earlier.map (·.name) := by
    rw [(names_of_addAll h).mem_iff, hempty, List.append_nil]
  rw [fst_add_eq_error_iff, backend_of_addAll h, hmem]
  rfl

/-- Where no registry is made of declarations, they have no configs, or the first of these that
cannot be added fails. -/
theorem ofDeclarations_eq_error_iff : ofDeclarations b d = .error f ↔
    d.configs = .error f ∨ ∃ earlier c later, d.configs = .ok (earlier ++ c :: later) ∧
      Addable b earlier ∧ FailsBehind b earlier c f := by
  obtain ⟨fresh, hempty, rfl, hof⟩ := exists_ofDeclarations_eq b
  rw [hof]
  cases hconfigs : d.configs with
  | error g => simp [bind, Except.bind]
  | ok configs =>
    have hbind : (Except.ok configs >>= fresh.addAll) = fresh.addAll configs := rfl
    rw [hbind, addAll_eq_error_iff]
    constructor
    · rintro ⟨earlier, c, later, r', rfl, hearlier, hfails⟩
      exact .inr ⟨earlier, c, later, rfl, (exists_addAll_iff.1 ⟨r', hearlier⟩).1,
        (fst_add_eq_error_iff_failsBehind hempty hearlier).1 hfails⟩
    · rintro (hnone | ⟨earlier, c, later, hsplit, haddable, hfails⟩)
      · cases hnone
      · obtain ⟨r', hearlier⟩ := exists_addAll_iff.2 ⟨haddable, by simp [hempty]⟩
        exact ⟨earlier, c, later, r', Except.ok.inj hsplit, hearlier,
          (fst_add_eq_error_iff_failsBehind hempty hearlier).2 hfails⟩

/-- Under a name is stored what a config comes to. It is the config itself, but for the right to
write, which a catalog type that is only read does not have. -/
def Stores (b : Backend) (r : Registry) (name : String) (answer : Answer IntegrationConfig) : Prop :=
  ∃ config i, answer = .ok config ∧ Integration.onBackend b config = .ok i ∧ r.get name = .ok i ∧
    i.config = if config.catalogType.behaviour = .externalReadOnly then
      { config with allowsWrites := false } else config

/-- Every integration that has a config is stored under the name that it has there. -/
theorem stores_of_ofDeclarations (h : ofDeclarations b d = .ok r) (hconfigs : d.configs = .ok configs)
    {declared : IntegrationDeclaration} {name : String} {allowsWrites : Bool} (hmem : c ∈ configs)
    (hc : declared.toConfig name allowsWrites = .ok c) :
    Stores b r name (declared.toConfig name allowsWrites) := by
  obtain ⟨fresh, -, rfl, hof⟩ := exists_ofDeclarations_eq b
  rw [hof, hconfigs] at h
  obtain ⟨i, hbuilt, hget⟩ := (addAll_eq_ok h).2 c hmem
  rw [(IntegrationDeclaration.of_toConfig_eq_ok hc).1] at hget
  exact ⟨c, i, hc, hbuilt, hget, (Integration.builtFrom_of_onBackend hbuilt).config_eq⟩

/-- What making a registry of declarations comes to.

- `succeeds_iff`: there is one exactly if the declarations have configs, the backend can work with
  each, and no name is given twice, over all catalogs.
- `names`: it has the names of the catalogs and of what they read, and no others.
- `writes`, `reads`: under the name of a catalog is its active integration, and under the name of
  one for reading is that one.
- `fails_iff`: if there is none, the declarations have no configs, or the first of these that cannot
  be added fails. -/
structure RegistersDeclared (b : Backend) (d : Declarations) : Prop where
  succeeds_iff : (∃ r, ofDeclarations b d = .ok r) ↔
    (∃ configs, d.configs = .ok configs ∧ ∀ c ∈ configs, ∃ i, Integration.onBackend b c = .ok i) ∧
      d.names.Nodup
  names : ∀ r, ofDeclarations b d = .ok r → r.names ~ d.names
  writes : ∀ r, ofDeclarations b d = .ok r → ∀ catalog ∈ d.catalogs, ∃ active ∈ catalog.writes,
    active.name = catalog.active ∧
      (∀ other ∈ catalog.writes, other.name = catalog.active → other = active) ∧
      Stores b r catalog.name (active.toConfig catalog.name true)
  reads : ∀ r, ofDeclarations b d = .ok r → ∀ catalog ∈ d.catalogs, ∀ read ∈ catalog.reads,
    Stores b r read.name (read.toConfig read.name false)
  fails_iff : ∀ f, ofDeclarations b d = .error f ↔
    d.configs = .error f ∨ ∃ earlier c later, d.configs = .ok (earlier ++ c :: later) ∧
      Addable b earlier ∧ FailsBehind b earlier c f

end Registry

/-- Declarations that keep the rules are registered all together, or the first that cannot be added
fails. -/
theorem declarations_register_all (b : Backend) {d : Declarations} {path : String}
    (h : d.validate path = .ok ()) : Registry.RegistersDeclared b d := by
  have hrules := Declarations.validate_eq_ok_iff.1 h
  refine
    { succeeds_iff := ?_
      names := fun r hr => Registry.names_of_ofDeclarations hr
      writes := fun r hr catalog hcatalog => ?_
      reads := fun r hr catalog hcatalog read hread => ?_
      fails_iff := fun f => Registry.ofDeclarations_eq_error_iff }
  · rw [Registry.exists_ofDeclarations_iff]
    constructor
    · rintro ⟨configs, hconfigs, hbuilt, hdistinct⟩
      rw [Declarations.map_name_configs hconfigs] at hdistinct
      exact ⟨⟨configs, hconfigs, hbuilt⟩, hdistinct⟩
    · rintro ⟨⟨configs, hconfigs, hbuilt⟩, hdistinct⟩
      rw [← Declarations.map_name_configs hconfigs] at hdistinct
      exact ⟨configs, hconfigs, hbuilt, hdistinct⟩
  · obtain ⟨configs, hconfigs, -⟩ := Registry.exists_ofDeclarations_iff.1 ⟨r, hr⟩
    obtain ⟨active, hactive, c, hmem, hc⟩ :=
      Declarations.exists_config_of_active hconfigs hcatalog
    obtain ⟨hwrite, hname⟩ := CatalogDeclaration.of_activeWrite?_eq_some hactive
    refine ⟨active, hwrite, hname, fun other hother hsame => ?_,
      Registry.stores_of_ofDeclarations hr hconfigs hmem hc⟩
    exact (hrules.each catalog hcatalog).write_unique hother hwrite (hsame.trans hname.symm)
  · obtain ⟨configs, hconfigs, -⟩ := Registry.exists_ofDeclarations_iff.1 ⟨r, hr⟩
    obtain ⟨c, hmem, hc⟩ := Declarations.exists_config_of_read hconfigs hcatalog hread
    exact Registry.stores_of_ofDeclarations hr hconfigs hmem hc

/-- A catalog that is written through the warehouse. -/
def warehouseCatalog (name : String) : CatalogDeclaration where
  name
  active := "primary"
  writes := [{ name := "primary", catalogType := "built_in" }]

/-- Each catalog can be registered alone, but not both together, because one has the name under
which the other reads. -/
theorem declarations_register_all_clash :
    Declarations.validate "catalogs.yml" ⟨[lakeCatalog, warehouseCatalog "shared"]⟩ = .ok () ∧
      Registry.RegistersDeclared .snowflake ⟨[lakeCatalog, warehouseCatalog "shared"]⟩ ∧
      Registry.ofDeclarations .snowflake ⟨[lakeCatalog, warehouseCatalog "shared"]⟩ =
        .error (Registry.taken "shared") ∧
      (Registry.ofDeclarations .snowflake ⟨[lakeCatalog]⟩).map (·.names) = .ok ["lake", "shared"] ∧
      (Registry.ofDeclarations .snowflake ⟨[warehouseCatalog "shared"]⟩).map (·.names) =
        .ok ["shared"] := by
  have hrules :
      Declarations.validate "catalogs.yml" ⟨[lakeCatalog, warehouseCatalog "shared"]⟩ = .ok () := rfl
  exact ⟨hrules, declarations_register_all .snowflake hrules, rfl, rfl, rfl⟩

end Lakehouse
