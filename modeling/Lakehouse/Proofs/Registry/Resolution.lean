import Lakehouse.Proofs.Integration.Resolvable
import Lakehouse.Proofs.Registry.Naming

/-!
# Resolving through a registry

When a registry resolves a model and when it does not. There are two ways to fail: the model names an
integration that is not stored, or it asks for something that the integration it is resolved through
cannot do.

- `Registry.ResolvesThrough`: what a registry makes of a model by means of one integration.
- `Registry.ResolvesExactly`: what it makes of a model, whatever that asks for.
- **`registries_resolve_exactly`**: every registry that is reached resolves models so.
-/

namespace Lakehouse

namespace Registry

/-- What a registry makes of a model by means of one integration.

- `through`, `named`: the integration is the one that the model asks for.
- `exists_ok_iff`: there is a relation exactly if the integration can resolve the model.
- `refused`: otherwise there is a failure of resolution that names the integration.
- `unused`: what the model says of options that the integration does not have makes no difference.
- `limits`: the options of the relation are within their limits. -/
structure ResolvesThrough (r : Registry) (i : Integration) (m : Model) : Prop where
  through : r.integrationFor m = .ok i
  named : ∀ name, m.catalogName = some name → i.name = name
  exists_ok_iff : (∃ relation, r.resolve m = .ok relation) ↔ Integration.Resolvable i.config m
  refused : ∀ f, r.resolve m = .error f → f.kind = .resolution ∧
    ∃ problem, f.message =
      "Model '" ++ m.label ++ "' in catalog integration '" ++ i.name ++ "': " ++ problem
  unused : ∀ other, r.resolve (m.withUnused i.config.catalogType.behaviour other) = r.resolve m
  limits : ∀ relation, r.resolve m = .ok relation → relation.WithinLimits

/-- What a registry makes of a model: the name that it gives is unknown, or it is resolved through what
is stored under the name, or through the backend's own storage if it gives none. -/
structure ResolvesExactly (r : Registry) (m : Model) : Prop where
  notFound_iff : (∃ f, r.resolve m = .error f ∧ f.kind = .notFound) ↔
    ∃ name, m.catalogName = some name ∧ name ∉ r.names
  stored : (∀ name, m.catalogName = some name → name ∈ r.names) → ∃ i, r.ResolvesThrough i m

variable {b : Backend} {catalogs : List CatalogDeclaration} {r : Registry} {m : Model}
  {i : Integration}

/-- A model that gives no unknown name is resolved through an integration. -/
theorem exists_integrationFor (h : ∀ name, m.catalogName = some name → name ∈ r.names) :
    ∃ i, r.integrationFor m = .ok i := by
  unfold integrationFor
  cases hname : m.catalogName with
  | none => exact ⟨r.native, rfl⟩
  | some name => exact mem_names_iff.1 (h name hname)

theorem resolvesThrough_of_integrationFor (h : Reached b catalogs r)
    (hi : r.integrationFor m = .ok i) : r.ResolvesThrough i m := by
  obtain ⟨c, hbuilt⟩ := h.exists_onBackend hi
  have hmade := Integration.madeFrom_of_onBackend hbuilt
  have hresolve : r.resolve m = i.resolve m := by
    rw [resolve_eq, hi]
    rfl
  refine
    { through := hi
      named := fun name hname => ?_
      exists_ok_iff := ?_
      refused := fun f hf => ?_
      unused := fun other => ?_
      limits := fun relation hrelation => ?_ }
  · simp only [integrationFor, hname] at hi
    exact name_of_get h hi
  · rw [hresolve]
    exact (Integration.checks_resolve hmade m).exists_ok_iff
  · rw [hresolve] at hf
    obtain ⟨problem, rfl⟩ := Integration.refuses_resolve i m f hf
    exact ⟨rfl, problem, rfl⟩
  · -- the other model gives the same name
    have hother : r.integrationFor (m.withUnused i.config.catalogType.behaviour other) = .ok i := by
      rw [← hi]
      unfold integrationFor
      rw [Model.catalogName_withUnused]
    rw [resolve_eq, hother, hresolve, hmade.catalogType_eq]
    exact Integration.resolve_withUnused hmade m other
  · rw [hresolve] at hrelation
    exact Integration.withinLimits_of_resolve hmade hrelation

end Registry

/-- A registry resolves a model exactly if it must: a name that is not stored is not found, and a name
that is stored, or none, is resolved as far as the integration can. -/
theorem registries_resolve_exactly {b : Backend} {catalogs : List CatalogDeclaration} {r : Registry}
    (h : Registry.Reached b catalogs r) (m : Model) : r.ResolvesExactly m := by
  have hstored : (∀ name, m.catalogName = some name → name ∈ r.names) →
      ∃ i, r.ResolvesThrough i m := by
    intro hnames
    obtain ⟨i, hi⟩ := Registry.exists_integrationFor hnames
    exact ⟨i, Registry.resolvesThrough_of_integrationFor h hi⟩
  refine ⟨⟨?_, ?_⟩, hstored⟩
  · rintro ⟨f, hf, hkind⟩
    by_contra hnot
    push Not at hnot
    obtain ⟨i, hi⟩ := hstored hnot
    obtain ⟨hresolution, -⟩ := hi.refused f hf
    rw [hresolution] at hkind
    cases hkind
  · rintro ⟨name, hname, hunknown⟩
    refine ⟨Registry.unknown name r.names, ?_, rfl⟩
    simp only [Registry.resolve, hname, Registry.get_of_not_mem hunknown]

/-- A model whose flag is no truth value. -/
def flaggedModel (catalogName : String) : Model where
  catalogName := some catalogName
  schema := some "s"
  identifier := some "t"
  changeTracking := some (.text "0")

/-- The flag makes a managed table fail. A table that is only read has no such flag, and a name that is
not stored is not found, whatever the flag says. -/
theorem registries_resolve_exactly_lake :
    ∃ r, Registry.ofDeclarations .snowflake ⟨[lakeCatalog]⟩ = .ok r ∧
      Registry.Reached .snowflake [lakeCatalog] r ∧
      (∀ name, r.ResolvesExactly (flaggedModel name)) ∧
      (∃ f, r.resolve (flaggedModel "elsewhere") = .error f ∧ f.kind = .notFound) ∧
      (∃ f, r.resolve (flaggedModel "lake") = .error f ∧ f.kind = .resolution) ∧
      ∃ relation, r.resolve (flaggedModel "shared") = .ok relation ∧ relation.WithinLimits := by
  obtain ⟨r, hr, hnames, ⟨f, hlake⟩, relation, hshared⟩ :
      ∃ r, Registry.ofDeclarations .snowflake ⟨[lakeCatalog]⟩ = .ok r ∧ r.names = ["lake", "shared"] ∧
        (∃ f, r.resolve (flaggedModel "lake") = .error f) ∧
        ∃ relation, r.resolve (flaggedModel "shared") = .ok relation :=
    ⟨_, rfl, rfl, ⟨_, rfl⟩, _, rfl⟩
  have hreached : Registry.Reached .snowflake [lakeCatalog] r := .ofDeclarations hr
  have hexactly := fun name => registries_resolve_exactly hreached (flaggedModel name)
  refine ⟨r, hr, hreached, hexactly, ?_, ⟨f, hlake, ?_⟩, relation, hshared, ?_⟩
  · refine (hexactly "elsewhere").notFound_iff.2 ⟨"elsewhere", rfl, ?_⟩
    simp [hnames]
  · obtain ⟨i, hi⟩ := (hexactly "lake").stored (by simp [flaggedModel, hnames])
    exact (hi.refused f hlake).1
  · obtain ⟨i, hi⟩ := (hexactly "shared").stored (by simp [flaggedModel, hnames])
    exact hi.limits relation hshared

end Lakehouse
