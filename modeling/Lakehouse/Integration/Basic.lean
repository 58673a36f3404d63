import Lakehouse.Catalog.Backend
import Lakehouse.Integration.Options

/-!
# Integrations

An integration is a declaration whose options have been understood. How it resolves a model is its
strategy, one for each behaviour of a catalog type.

- `Strategy`: the four strategies with their options.
- `Integration.internal`, `Integration.managed`, `Integration.glue`, `Integration.readOnly`: an
  integration with a given strategy, if the declaration allows it.
- `Integration.onBackend`: the integration that a declaration means on a backend.
-/

namespace Lakehouse

/-- How a managed table's location becomes an address. -/
inductive ManagedLocation where
  /-- The volume goes without saying, so the address is the location. -/
  | namespaceLocal
  /-- The address is the volume followed by the location. -/
  | volumePrefixed
  deriving DecidableEq, Repr

/-- How an integration resolves a model. -/
inductive Strategy where
  /-- The warehouse's own storage. -/
  | internal
  /-- Tables that the warehouse manages on an external volume. -/
  | managed (location : ManagedLocation) (options : ManagedOptions)
  /-- Tables that the warehouse writes and an external catalog knows. -/
  | glue (options : GlueOptions)
  /-- Tables that are read and not written. -/
  | readOnly (options : ReadOnlyOptions)
  deriving DecidableEq, Repr

/-- A declaration with its options understood. -/
structure Integration where
  config : IntegrationConfig
  strategy : Strategy

namespace Integration

/-- The name under which models reach the integration. -/
def name (i : Integration) : String :=
  i.config.name

/-- Models may be written through the integration. -/
def allowsWrites (i : Integration) : Bool :=
  match i.strategy with
  | .readOnly _ => false
  | _ => i.config.allowsWrites

/-- The strategy does not go with the declaration's catalog type. -/
def mismatch (c : IntegrationConfig) (role : String) : Failure :=
  { kind := .internal
    message := s!"catalog_type '{c.catalogType.token}' cannot back {role}" }

/-- An integration over the warehouse's own storage. -/
def internal (c : IntegrationConfig) : Answer Integration :=
  if c.catalogType.behaviour = .internal then .ok ⟨c, .internal⟩
  else .error (mismatch c "an internal integration")

/-- How managed tables of a catalog type are located, if they are managed. -/
def managedLocation? (t : CatalogType) : Option ManagedLocation :=
  if t = .builtIn then some .namespaceLocal
  else if t.behaviour = .managedExternal then some .volumePrefixed
  else none

/-- An integration whose tables the warehouse manages. -/
def managed (c : IntegrationConfig) : Answer Integration :=
  match managedLocation? c.catalogType with
  | none => .error (mismatch c "a managed integration")
  | some location => (ManagedOptions.ofConfig c).map fun o => ⟨c, .managed location o⟩

/-- An integration whose tables an external catalog knows. -/
def glue (c : IntegrationConfig) : Answer Integration :=
  if c.catalogType.behaviour = .externalWritable then
    (GlueOptions.ofConfig c).map fun o => ⟨c, .glue o⟩
  else .error (mismatch c "an externally cataloged integration")

/-- The catalog types that are read and not written. -/
def readOnlyTypes : List CatalogType :=
  [.icebergRest, .awsGlue]

/-- The catalog type is not one that is only read. -/
def notReadOnly (c : IntegrationConfig) : Failure :=
  let known := CatalogType.listed readOnlyTypes
  c.invalid s!"catalog_type '{c.catalogType.token}' cannot be read-only. Expected one of ({known})"

/-- What is said of a table format that a catalog type which is only read does not have. -/
def formatProblem (format : TableFormat) (t : CatalogType) : String :=
  s!"table_format '{format.token}' is not supported for catalog_type '{t.token}'. " ++
    "Leave it unset or use 'iceberg'"

/-- An integration whose tables are read and not written, whatever the declaration says. -/
def readOnly (c : IntegrationConfig) : Answer Integration :=
  if readOnlyTypes.contains c.catalogType then
    match c.tableFormat with
    | some .default => .error (c.invalid (formatProblem .default c.catalogType))
    | _ => .ok ⟨{ c with allowsWrites := false }, .readOnly (ReadOnlyOptions.ofConfig c)⟩
  else .error (notReadOnly c)

/-- The backend does not know the catalog type. -/
def unsupported (b : Backend) (c : IntegrationConfig) : Failure :=
  let known := CatalogType.listed b.supportedTypes
  { kind := .notSupported
    message := s!"Catalog integration '{c.name}': catalog_type '{c.catalogType.token}' is not " ++
      s!"supported by the {b.token} adapter. Supported types: ({known})" }

/-- A declaration that forbids writing has a catalog type that is written. -/
def notForReading (c : IntegrationConfig) : Failure :=
  let known := CatalogType.listed readOnlyTypes
  c.invalid <| s!"read integrations must use a read-only catalog_type ({known}), " ++
    s!"got '{c.catalogType.token}'"

/-- The integration that a declaration means on a backend. -/
def onBackend (b : Backend) (c : IntegrationConfig) : Answer Integration :=
  if !b.supports c.catalogType then .error (unsupported b c)
  else
    let behaviour := c.catalogType.behaviour
    if !c.allowsWrites && behaviour != .externalReadOnly then .error (notForReading c)
    else
      match behaviour with
      | .internal => internal c
      | .managedExternal => managed c
      | .externalWritable => glue c
      | .externalReadOnly => readOnly c

end Integration

end Lakehouse
