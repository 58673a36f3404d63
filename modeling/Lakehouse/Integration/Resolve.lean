import Lakehouse.Integration.Basic
import Lakehouse.StorageRelation

/-!
# Resolving a model

The physical storage of a model under an integration. For each option the model's own setting comes
first, then the integration's, then the default of the catalog type.

- `Integration.common`: the fields that every strategy resolves alike.
- `baseLocation`: where a managed table lies under its volume.
- `Integration.resolve`: the resolved relation. Every failure is one of kind `resolution` that names
  the model and the integration.
-/

namespace Lakehouse

/-- The parts of a path that are not blank, trimmed. -/
def pathParts (parts : List (Option String)) : List String :=
  parts.filterMap fun p => p.bind Text.trimmed?

/-- Where a managed table lies: root, schema, identifier and subpath, blank parts left out. -/
def baseLocation (root subpath : Option String) (schema identifier : String) : String :=
  let first := (root.bind Text.trimmed?).getD "_dbt"
  Text.joinWith "/" (first :: pathParts [some schema, some identifier, subpath])

namespace Integration

/-- A failure to resolve a model, with the model and the integration named. -/
def failing (i : Integration) (m : Model) (problem : String) : Failure :=
  { kind := .resolution
    message := s!"Model '{m.label}' in catalog integration '{i.config.name}': {problem}" }

/-- A rule's answer for an override: a failure names the model and the integration. -/
def explain {α : Type} (i : Integration) (m : Model) : Answer α → Answer α
  | .ok a => .ok a
  | .error f => .error (i.failing m f.message)

/-- The override understood by a rule, or else what the integration has. -/
def override {α β : Type} (i : Integration) (m : Model) (rule : α → Answer β) (own : Option α)
    (given : Option β) : Answer (Option β) :=
  match own with
  | some a => i.explain m ((rule a).map some)
  | none => .ok given

/-- The fields that every strategy resolves alike. -/
def common (i : Integration) (m : Model) : Answer StorageRelation := do
  let c := i.config
  let tableFormat ← i.override m TableFormat.parse m.tableFormat c.tableFormat
  let fileFormat ← i.override m FileFormat.parse m.fileFormat c.fileFormat
  return {
    catalogName := c.name
    catalogType := c.catalogType
    tableFormat := tableFormat.getD c.catalogType.defaultTableFormat
    fileFormat := fileFormat.getD c.catalogType.defaultFileFormat
    externalVolume := m.externalVolume.or c.externalVolume
    allowsWrites := c.allowsWrites
  }

/-- The base location of a model that has a schema and an identifier. -/
def managedBase? (o : ManagedOptions) (m : Model) : Option String :=
  match m.schema, m.identifier with
  | some schema, some identifier =>
    some (baseLocation (m.baseLocationRoot.or o.baseLocationRoot)
      (m.baseLocationSubpath.or o.baseLocationSubpath) schema identifier)
  | _, _ => none

/-- The address of a managed table at a base location. -/
def managedAddress (location : ManagedLocation) (volume : Option String) (base : String) :
    Option String :=
  match location with
  | .namespaceLocal => some base
  | .volumePrefixed => volume.map fun v => Text.dropSlashesRight v ++ "/" ++ base

/-- A managed table: a base location, an address derived from it unless the model has its own, and
the options of managed tables. -/
def resolveManaged (i : Integration) (location : ManagedLocation) (o : ManagedOptions) (m : Model) :
    Answer StorageRelation := do
  let relation ← i.common m
  let base? := managedBase? o m
  let storageUri ←
    match m.storageUri, base? with
    | some uri, _ => .ok (some uri)
    | none, none => .error (i.failing m "a managed base location needs both schema and identifier")
    | none, some base => .ok (managedAddress location relation.externalVolume base)
  let kind := FailureKind.resolution
  let changeTracking ← i.override m (trackingToken kind) m.changeTracking o.changeTracking
  let policy ←
    i.override m (SerializationPolicy.parse kind) m.serializationPolicy o.serializationPolicy
  let dataRetentionDays ← i.override m (retentionDays kind "data_retention_time_in_days")
    m.dataRetentionDays o.dataRetentionDays
  let maxExtensionDays ← i.override m (retentionDays kind "max_data_extension_time_in_days")
    m.maxExtensionDays o.maxExtensionDays
  return { relation with
    storageUri
    baseLocation := base?
    changeTracking
    serializationPolicy := policy.map (·.token)
    dataRetentionDays
    maxExtensionDays }

/-- A registered table: an address under the volume, if there is one, which ends in a slash because a
table's location is a directory. -/
def resolveGlue (i : Integration) (o : GlueOptions) (m : Model) : Answer StorageRelation := do
  let relation ← i.common m
  let storageUri ←
    match m.storageUri, relation.externalVolume with
    | some uri, _ => .ok (some uri)
    | none, none => .ok none
    | none, some volume =>
      match m.schema, m.identifier with
      | some schema, some identifier =>
        .ok (some (Text.dropSlashesRight volume ++ "/" ++ schema ++ "/" ++ identifier ++ "/"))
      | _, _ =>
        .error (i.failing m
          "a storage location under external_volume needs both schema and identifier")
  return { relation with
    storageUri
    externalSchema := some (m.externalSchema.getD o.externalSchema)
    glueDatabase := o.glueDatabase
    partitionBy := m.partitionBy }

/-- A table that is only read: an Iceberg table, and never written. -/
def resolveReadOnly (i : Integration) (o : ReadOnlyOptions) (m : Model) :
    Answer StorageRelation := do
  let relation ← i.common m
  if relation.tableFormat = .iceberg then
    return { relation with catalogNamespace := o.catalogNamespace, allowsWrites := false }
  else
    .error (i.failing m (formatProblem relation.tableFormat i.config.catalogType))

/-- A table in the warehouse's own storage. -/
def resolveInternal (i : Integration) (m : Model) : Answer StorageRelation := do
  let relation ← i.common m
  return { relation with storageUri := m.storageUri }

/-- The physical storage of a model. -/
def resolve (i : Integration) (m : Model) : Answer StorageRelation :=
  match i.strategy with
  | .internal => i.resolveInternal m
  | .managed location o => i.resolveManaged location o m
  | .glue o => i.resolveGlue o m
  | .readOnly o => i.resolveReadOnly o m

end Integration

end Lakehouse
