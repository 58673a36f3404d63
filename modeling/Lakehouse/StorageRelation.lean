import Lakehouse.Catalog.Format
import Lakehouse.Json
import Lakehouse.Template.Value

/-!
# Storage relations

The physical storage of one model, resolved: what a model's data definition statements are written
from. Templates see it as a map, and other programs as a record of data.

- `StorageRelation`: the resolved parameters.
- `StorageRelation.fieldNames`: the names that templates see, in order.
- `StorageRelation.field?`: what is found under a name; the catalog type is in capitals, and an optional
  text is trimmed and null when blank. Whether the table is an Iceberg table is found too, under a name
  that is not listed.
- `StorageRelation.get`, `StorageRelation.fields`: what templates find under a key, and under the
  names that they see.
- `StorageRelation.record`: the fields as data, in the same order and as they are.
- `StorageRelation.summary`: the relation on one line.
-/

namespace Lakehouse

/-- The physical storage of one model. -/
structure StorageRelation where
  catalogName : String
  catalogType : CatalogType
  tableFormat : TableFormat
  fileFormat : FileFormat
  externalVolume : Option String := none
  storageUri : Option String := none
  baseLocation : Option String := none
  partitionBy : Option (List String) := none
  externalSchema : Option String := none
  glueDatabase : Option String := none
  catalogNamespace : Option String := none
  changeTracking : Option String := none
  serializationPolicy : Option String := none
  dataRetentionDays : Option Nat := none
  maxExtensionDays : Option Nat := none
  allowsWrites : Bool := true
  deriving DecidableEq, Repr

namespace StorageRelation

/-- The table is an Iceberg table. -/
def isIceberg (r : StorageRelation) : Bool :=
  r.tableFormat == .iceberg

/-- A trimmed text, or null when nothing is left. -/
def textField (s : Option String) : TemplateValue :=
  match s.bind Text.trimmed? with
  | some t => .text t
  | none => .null

/-- A count, or null. -/
def countField (n : Option Nat) : TemplateValue :=
  match n with
  | some n => .int n
  | none => .null

/-- A list of texts, or null. -/
def listField (items : Option (List String)) : TemplateValue :=
  match items with
  | some ss => .list (ss.map .text)
  | none => .null

/-- The names of the fields that templates see, in order. -/
def fieldNames : List String :=
  [ "catalog_name", "catalog_type", "table_format", "file_format", "external_volume", "storage_uri",
    "base_location", "partition_by", "external_schema", "glue_database", "namespace",
    "change_tracking", "storage_serialization_policy", "data_retention_time_in_days",
    "max_data_extension_time_in_days", "allows_writes" ]

/-- What is found under a name. -/
def field? (r : StorageRelation) : String → Option TemplateValue
  | "catalog_name" => some (.text r.catalogName)
  | "catalog_type" => some (.text r.catalogType.capitalToken)
  | "table_format" => some (.text r.tableFormat.token)
  | "file_format" => some (.text r.fileFormat.token)
  | "external_volume" => some (textField r.externalVolume)
  | "storage_uri" => some (textField r.storageUri)
  | "base_location" => some (textField r.baseLocation)
  | "partition_by" => some (listField r.partitionBy)
  | "external_schema" => some (textField r.externalSchema)
  | "glue_database" => some (textField r.glueDatabase)
  | "namespace" => some (textField r.catalogNamespace)
  | "change_tracking" => some (textField r.changeTracking)
  | "storage_serialization_policy" => some (textField r.serializationPolicy)
  | "data_retention_time_in_days" => some (countField r.dataRetentionDays)
  | "max_data_extension_time_in_days" => some (countField r.maxExtensionDays)
  | "allows_writes" => some (.bool r.allowsWrites)
  | "is_iceberg" => some (.bool r.isIceberg)
  | _ => none

/-- What a template finds under a key: null for a text under which nothing is found, and nothing at all
for a key that is no text. -/
def get (r : StorageRelation) (key : TemplateValue) : TemplateValue :=
  match key.text? with
  | none => .undefined
  | some name => (r.field? name).getD .null

/-- The fields that templates see, in order, each looked up under its name. -/
def fields (r : StorageRelation) : List (String × TemplateValue) :=
  fieldNames.map fun name => (name, r.get (.text name))

/-- A value of a record, or null. -/
def recordField {α : Type} (value : α → Json) (a : Option α) : Json :=
  match a with
  | some a => value a
  | none => .null

/-- The fields as data, in order. -/
def record (r : StorageRelation) : List (String × Json) :=
  [ ("catalog_name", .string r.catalogName),
    ("catalog_type", .string r.catalogType.token),
    ("table_format", .string r.tableFormat.token),
    ("file_format", .string r.fileFormat.token),
    ("external_volume", recordField .string r.externalVolume),
    ("storage_uri", recordField .string r.storageUri),
    ("base_location", recordField .string r.baseLocation),
    ("partition_by", recordField (fun columns => .array (columns.map .string)) r.partitionBy),
    ("external_schema", recordField .string r.externalSchema),
    ("glue_database", recordField .string r.glueDatabase),
    ("namespace", recordField .string r.catalogNamespace),
    ("change_tracking", recordField .string r.changeTracking),
    ("storage_serialization_policy", recordField .string r.serializationPolicy),
    ("data_retention_time_in_days", recordField (fun days => .int days) r.dataRetentionDays),
    ("max_data_extension_time_in_days", recordField (fun days => .int days) r.maxExtensionDays),
    ("allows_writes", .bool r.allowsWrites) ]

/-- The relation on one line. -/
def summary (r : StorageRelation) : String :=
  let location := r.storageUri.getD "<none>"
  s!"CatalogRelation(catalog={r.catalogName}, type={r.catalogType.token}, " ++
    s!"format={r.tableFormat.token}, location={location})"

end StorageRelation

end Lakehouse
