import Lakehouse.NameMap
import Lakehouse.Yaml.Value

/-!
# Declarations

What a project declares about its storage: catalogs, each with the integrations through which its
tables are written and read. The texts are kept as they are written; what they mean is settled when the
declarations are projected onto integration configs.

- `IntegrationDeclaration`, `CatalogDeclaration`, `Declarations`: one integration, one catalog, all of
  them.
-/

namespace Lakehouse

/-- The declaration of one integration. -/
structure IntegrationDeclaration where
  name : String
  catalogType : String
  tableFormat : Option String := none
  fileFormat : Option String := none
  externalVolume : Option String := none
  /-- The options of the catalog type, by name. -/
  properties : NameMap YamlValue := .empty

/-- The declaration of one catalog. -/
structure CatalogDeclaration where
  name : String
  /-- The name of the integration through which the catalog's tables are written. -/
  active : String
  writes : List IntegrationDeclaration
  reads : List IntegrationDeclaration := []

/-- All integrations of the catalog: those for writing, then those for reading. -/
def CatalogDeclaration.integrations (c : CatalogDeclaration) : List IntegrationDeclaration :=
  c.writes ++ c.reads

/-- The declarations of a project. -/
structure Declarations where
  catalogs : List CatalogDeclaration

end Lakehouse
