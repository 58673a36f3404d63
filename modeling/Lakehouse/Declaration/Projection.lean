import Lakehouse.Catalog.Config
import Lakehouse.Declaration.Basic

/-!
# From declarations to integration configs

Each catalog is reached through its active integration, under the catalog's own name; the integrations
for reading keep their names and are never written through. Other integrations for writing are not
looked at.

- `IntegrationDeclaration.toConfig`: one integration, with its words understood and its properties as
  texts.
- `Declarations.configs`: the configs of all catalogs, in the order of their declaration.
-/

namespace Lakehouse

/-- The text of a scalar under its tags, null having none; `none` for a list or a map. -/
def YamlValue.scalarText? : YamlValue → Option (Option String)
  | .null => some none
  | .bool b => some (some (if b then "true" else "false"))
  | .int n => some (some (toString n))
  | .float x => some (some (numbers.text x))
  | .text s => some (some s)
  | .tagged _ v => v.scalarText?
  | .list _ | .map _ => none

namespace IntegrationDeclaration

/-- A failure about the integration. -/
def inContext (d : IntegrationDeclaration) (f : Failure) : Failure :=
  { kind := f.kind, message := s!"Integration '{d.name}': {f.message}" }

/-- A property is no scalar. -/
def notScalar (key : String) : Failure :=
  { kind := .invalidIntegrationConfig
    message := s!"adapter property '{key}' must be a scalar value" }

/-- The properties as texts, those that are null left out. -/
def propertyTexts : List (String × YamlValue) → Answer (List (String × String))
  | [] => .ok []
  | (key, v) :: rest =>
    match v.scalarText? with
    | none => .error (notScalar key)
    | some none => propertyTexts rest
    | some (some s) => (propertyTexts rest).map fun texts => (key, s) :: texts

/-- What the integration declares, under a name. -/
def toConfig (d : IntegrationDeclaration) (name : String) (allowsWrites : Bool) :
    Answer IntegrationConfig :=
  Except.mapError d.inContext do
    let catalogType ← CatalogType.parse d.catalogType
    let tableFormat ← optional TableFormat.parse d.tableFormat
    let fileFormat ← optional FileFormat.parse d.fileFormat
    let texts ← propertyTexts d.properties.entries
    return {
      name, catalogType, tableFormat, fileFormat
      externalVolume := d.externalVolume.bind Text.unlessBlank
      properties := .ofList texts
      allowsWrites
    }

end IntegrationDeclaration

namespace CatalogDeclaration

/-- The integration through which the catalog's tables are written. -/
def activeWrite? (c : CatalogDeclaration) : Option IntegrationDeclaration :=
  c.writes.find? fun w => w.name == c.active

/-- No integration for writing has the name of the active one. -/
def activeNotFound (c : CatalogDeclaration) : Failure :=
  .ofConfiguration s!"In catalog '{c.name}', active_write_integration '{c.active}' not found"

/-- The configs of a catalog: its active integration, then those for reading. -/
def configs (c : CatalogDeclaration) : Answer (List IntegrationConfig) :=
  match c.activeWrite? with
  | none => .error c.activeNotFound
  | some active => do
    let write ← active.toConfig c.name true
    let reads ← c.reads.mapM fun r => r.toConfig r.name false
    return write :: reads

end CatalogDeclaration

/-- The configs of all catalogs. -/
def Declarations.configs (d : Declarations) : Answer (List IntegrationConfig) :=
  (d.catalogs.mapM CatalogDeclaration.configs).map List.flatten

end Lakehouse
