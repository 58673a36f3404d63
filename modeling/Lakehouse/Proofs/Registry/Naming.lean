import Lakehouse.Proofs.Model.Reading
import Lakehouse.Proofs.Registry.Declared

/-!
# Names in models

A declaration is registered under its name as it is written, and a model is read with the blanks
around its texts left out, and with the word `none` for no text at all. Under a name that has no
blanks around it and is not that word, a model finds what is declared.

- `Registry.name_of_get`: what is stored under a name is called so.
- `Registry.Reaches`: a model is resolved through what is stored under a name, and nothing else.
- **`declared_names_are_reached`**: every name of a registry that is made of declarations is reached
  by the models that give it.
- `none_and_blanks_are_not_reached`: a name that models cannot give.
-/

namespace Lakehouse

/-! ## Finding a name -/

namespace Registry

variable {b : Backend} {r : Registry} {d : Declarations} {name : String} {i : Integration}

/-- What is stored under a name is called so. -/
theorem name_of_get {catalogs : List CatalogDeclaration} (h : Reached b catalogs r)
    (hget : r.get name = .ok i) : i.name = name := by
  obtain ⟨⟨fresh, calls, hnew, rfl⟩, -⟩ := h.exists_run
  rw [get_eq_ok_iff, (tracks_run hnew calls).stored] at hget
  obtain ⟨earlier, c, later, -, hname, hbuilt, -⟩ := firstBuilt?_eq_some_iff.1 hget
  exact (Integration.builtFrom_of_onBackend hbuilt).name_eq.trans hname

/-- Among the names of declarations that keep the rules is none that is blank. -/
theorem filled_of_mem_names (h : d.WellFormed) (hname : name ∈ d.names) :
    Text.isBlankText name = false := by
  obtain ⟨catalog, hcatalog, hname⟩ := List.mem_flatMap.1 hname
  rcases List.mem_cons.1 hname with rfl | hname
  · exact h.catalogs.filled _ (List.mem_map_of_mem hcatalog)
  · refine (h.each catalog hcatalog).integrations.filled name ?_
    rw [CatalogDeclaration.integrations, List.map_append]
    exact List.mem_append_right _ hname

/-- A model that is read from a template is resolved through what is stored under a name.

- `asked`: the model asks for that name, and not for the backend's own storage.
- `through`: it is resolved by the integration that is stored under the name.
- `fails`: if it is not, the reason is the model, and not that the name is unknown.
- `named`: its relation has the name. -/
structure Reaches (r : Registry) (name : String) (v : TemplateValue) : Prop where
  asked : ∀ m, Model.ofTemplate v = .ok m → m.catalogName = some name
  through : ∃ i, r.get name = .ok i ∧ i.name = name ∧
    (Model.ofTemplate v >>= r.resolve) = Model.ofTemplate v >>= i.resolve
  fails : ∀ f, (Model.ofTemplate v >>= r.resolve) = .error f → f.kind = .resolution
  named : ∀ relation, (Model.ofTemplate v >>= r.resolve) = .ok relation →
    relation.catalogName = name

theorem reaches_of_get {v : TemplateValue} (hget : r.get name = .ok i) (hname : i.name = name)
    (hasked : ∀ m, Model.ofTemplate v = .ok m → m.catalogName = some name) : Reaches r name v := by
  have hresolve : ∀ m, Model.ofTemplate v = .ok m → r.resolve m = i.resolve m := by
    intro m hm
    simp only [resolve, hasked m hm, hget]
  have hthrough : (Model.ofTemplate v >>= r.resolve) = Model.ofTemplate v >>= i.resolve := by
    cases hm : Model.ofTemplate v with
    | error f => rfl
    | ok m => exact hresolve m hm
  refine ⟨hasked, ⟨i, hget, hname, hthrough⟩, fun f hf => ?_, fun relation hrelation => ?_⟩
  · rw [hthrough] at hf
    exact (Model.failsToResolve_ofTemplate v).bind (Integration.failsToResolve_resolve i) f hf
  · rw [hthrough] at hrelation
    obtain ⟨m, -, hrelation⟩ := exists_of_bind_ok hrelation
    exact (Integration.catalogName_of_resolve hrelation).trans hname

end Registry

/-- Every name under which something is declared is reached by the models that give it, whatever
blanks they write around it. -/
theorem declared_names_are_reached {b : Backend} {d : Declarations} {path : String} {r : Registry}
    {v : TemplateValue} {name text : String} (hrules : d.validate path = .ok ())
    (hdeclared : Registry.ofDeclarations b d = .ok r) (hname : name ∈ r.names)
    (htext : (v.member "catalog_name").text? = some text) (htrim : Text.trim text = name)
    (hnone : Text.sameToken name "none" = false) : Registry.Reaches r name v := by
  obtain ⟨i, hget⟩ := Registry.mem_names_iff.1 hname
  have hfilled : name ≠ "" := by
    rintro rfl
    have hmem := (Registry.names_of_ofDeclarations hdeclared).mem_iff.1 hname
    exact absurd (Registry.filled_of_mem_names (Declarations.validate_eq_ok_iff.1 hrules) hmem)
      (by decide)
  have hoption : Model.textOption v "catalog_name" = some name := by
    rw [Model.textOption_of_text htext, htrim, Model.unlessUnset, if_neg]
    simp [hfilled, hnone]
  have hcatalog : Model.renamedOption v "catalog_name" "catalog" = some name := by
    rw [Model.renamedOption, hoption, Option.some_or]
  refine Registry.reaches_of_get hget (Registry.name_of_get (.ofDeclarations hdeclared) hget) ?_
  intro m hm
  obtain ⟨retention, extension, -, -, rfl⟩ := Model.eq_of_ofTemplate hm
  exact hcatalog

/-- A model that gives its catalog with a blank in front. -/
def lakeModel : TemplateValue :=
  .map [("catalog_name", .text " lake"), ("identifier", .text "t"), ("schema", .text "s")]

theorem declared_names_are_reached_lake :
    ∃ r, Declarations.validate "catalogs.yml" ⟨[lakeCatalog]⟩ = .ok () ∧
      Registry.ofDeclarations .snowflake ⟨[lakeCatalog]⟩ = .ok r ∧ "lake" ∈ r.names ∧
      (lakeModel.member "catalog_name").text? = some " lake" ∧ Text.trim " lake" = "lake" ∧
      Text.sameToken "lake" "none" = false ∧ Registry.Reaches r "lake" lakeModel ∧
      (Model.ofTemplate lakeModel >>= r.resolve).map (·.storageUri) = .ok (some "_dbt/s/t") := by
  obtain ⟨r, hr, hnames, hresolved⟩ :
      ∃ r, Registry.ofDeclarations .snowflake ⟨[lakeCatalog]⟩ = .ok r ∧
        r.names = ["lake", "shared"] ∧
        (Model.ofTemplate lakeModel >>= r.resolve).map (·.storageUri) = .ok (some "_dbt/s/t") :=
    ⟨_, rfl, rfl, rfl⟩
  have hrules : Declarations.validate "catalogs.yml" ⟨[lakeCatalog]⟩ = .ok () := rfl
  have hmem : "lake" ∈ r.names := by simp [hnames]
  exact ⟨r, hrules, hr, hmem, rfl, rfl, rfl,
    declared_names_are_reached hrules hr hmem (rfl : _ = some " lake") rfl rfl, hresolved⟩

/-- A model cannot give a name that has blanks around it, or that is the word for no name: the one is
not found, and the other is resolved by the backend's own storage. -/
theorem none_and_blanks_are_not_reached :
    let d : Declarations := ⟨[warehouseCatalog "none", warehouseCatalog " lake "]⟩
    ∃ r, d.validate "catalogs.yml" = .ok () ∧ Registry.ofDeclarations .snowflake d = .ok r ∧
      r.names = [" lake ", "none"] ∧
      (∃ m relation, Model.ofTemplate (.map [("catalog_name", .text "none")]) = .ok m ∧
        r.resolve m = .ok relation ∧ r.native.resolve m = .ok relation ∧
        relation.catalogType = .infoSchema) ∧
      ∃ m f, Model.ofTemplate (.map [("catalog_name", .text " lake ")]) = .ok m ∧
        r.resolve m = .error f ∧ f.kind = .notFound :=
  ⟨_, rfl, rfl, rfl, ⟨_, _, rfl, rfl, rfl, rfl⟩, _, _, rfl, rfl, rfl⟩

end Lakehouse
