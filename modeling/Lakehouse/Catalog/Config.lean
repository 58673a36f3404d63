import Lakehouse.Catalog.Format
import Lakehouse.NameMap

/-!
# Integration configs

The declaration of one integration: under which name a project reaches which kind of storage, with
the options of that kind as plain texts.
-/

namespace Lakehouse

/-- The declaration of one integration. -/
structure IntegrationConfig where
  /-- The name as declared; case counts. -/
  name : String
  catalogType : CatalogType
  tableFormat : Option TableFormat
  fileFormat : Option FileFormat
  externalVolume : Option String
  /-- The options of the catalog type, by name. -/
  properties : NameMap String
  /-- Models may be written through the integration. -/
  allowsWrites : Bool

namespace IntegrationConfig

/-- A writable integration without options. -/
def plain (name : String) (catalogType : CatalogType) : IntegrationConfig where
  name
  catalogType
  tableFormat := none
  fileFormat := none
  externalVolume := none
  properties := .empty
  allowsWrites := true

/-- An option that is set: a blank text sets nothing. -/
def property? (c : IntegrationConfig) (key : String) : Option String :=
  (c.properties.get? key).bind Text.unlessBlank

/-- A problem with the declaration. -/
def invalid (c : IntegrationConfig) (problem : String) : Failure :=
  { kind := .invalidIntegrationConfig
    message := s!"Catalog integration '{c.name}': {problem}" }

end IntegrationConfig

end Lakehouse
