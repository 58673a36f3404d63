import Lakehouse.Declaration.Basic
import Lakehouse.Template.Value
import Lakehouse.Text.Token

/-!
# Declarations as documents

Declarations are written as nested maps with fixed keys. Reading goes through a document in its order
and reports the first thing that does not fit; what is missing is reported last.

- `Misfit`: the ways in which a value fails to fit.
- `Declarations.ofDocument`: the declarations that a value spells out.
- `Declarations.document`: the value that spells out declarations, with every key.

A tag around a value does not matter, except inside the properties of an integration, which keep it.
Null stands for a list, a map or a record without contents, and for an optional text that is not given.
-/

namespace Lakehouse

/-- What a place in a document calls for. -/
inductive Expectation where
  | text
  | list
  | map
  /-- A map with the keys of a certain record. -/
  | record (title : String)
  /-- The key of a record. -/
  | key
  deriving DecidableEq, Repr

/-- An expectation in a message. -/
def Expectation.phrase : Expectation → String
  | text => "a string"
  | list => "a sequence"
  | map => "a map"
  | record title => s!"struct {title}"
  | key => "field identifier"

/-- The ways in which a value fails to fit. -/
inductive Misfit where
  | wrongType (found : YamlValue) (expected : Expectation)
  | missing (key : String)
  /-- A key is given twice, maybe under two names. -/
  | duplicate (key : String)
  | unknown (key : String) (known : List String)
  /-- Two keys of a map inside a property have become equal. -/
  | collision
  deriving Repr

/-- The result of fitting a value. -/
abbrev Fit (α : Type) : Type := Except Misfit α

/-- A value in a message, by its type and, where it is short, its contents. -/
def YamlValue.phrase : YamlValue → String
  | .null => "unit value"
  | .bool b => s!"boolean `{b}`"
  | .int n => s!"integer `{n}`"
  | .float x => "floating point `" ++ TemplateValue.shownNumbers.text x ++ "`"
  | .text s => "string " ++ Text.quoted s
  | .list _ => "sequence"
  | .map _ => "map"
  | .tagged _ v => v.phrase

/-- A key in a message. -/
def keyPhrase (key : String) : String :=
  "`" ++ key ++ "`"

/-- The known keys in a message. -/
def knownPhrase (known : List String) : String :=
  match known with
  | [key] => "expected " ++ keyPhrase key
  | _ => "expected one of " ++ Text.joinWith ", " (known.map keyPhrase)

/-- What a misfit is called. -/
def Misfit.message : Misfit → String
  | wrongType found expected => s!"invalid type: {found.phrase}, expected {expected.phrase}"
  | missing key => "missing field " ++ keyPhrase key
  | duplicate key => "duplicate field " ++ keyPhrase key
  | unknown key known => "unknown field " ++ keyPhrase key ++ ", " ++ knownPhrase known
  | collision => "duplicate entry in YAML map"

/-! ### Parts of a document -/

namespace YamlValue

/-- A text, where one is called for. -/
def asText (expected : Expectation) (v : YamlValue) : Fit String :=
  match v.untagged with
  | text s => .ok s
  | other => .error (.wrongType other expected)

/-- An optional text. -/
def asOptionalText : YamlValue → Fit (Option String)
  | null => .ok none
  | v => (v.asText .text).map some

/-- The items of a list. -/
def asItems (v : YamlValue) : Fit (List YamlValue) :=
  match v.untagged with
  | list items => .ok items
  | null => .ok []
  | other => .error (.wrongType other .list)

/-- The entries of a map, or of a record. -/
def asEntries (expected : Expectation) (v : YamlValue) : Fit (List (YamlValue × YamlValue)) :=
  match v.untagged with
  | map entries => .ok entries
  | null => .ok []
  | other => .error (.wrongType other expected)

/-- A list of which each item is read in the same way. -/
def asList {α : Type} (item : YamlValue → Fit α) (v : YamlValue) : Fit (List α) :=
  v.asItems >>= fun items => items.mapM item

mutual

/-- The value of a property. The names of its tags lose a second leading mark, and keys that differed in
such a mark only collide. -/
def asProperty : YamlValue → Fit YamlValue
  | null => .ok null
  | bool b => .ok (bool b)
  | int n => .ok (int n)
  | float x => .ok (float x)
  | text s => .ok (text s)
  | list items => (propertyItems items).map list
  | map entries => (propertyEntries [] entries).map map
  | tagged tag v => v.asProperty.map (tagged (unmarked tag))

/-- The items of a list inside a property. -/
def propertyItems : List YamlValue → Fit (List YamlValue)
  | [] => .ok []
  | v :: rest => do
    let v ← v.asProperty
    return v :: (← propertyItems rest)

/-- The entries of a map inside a property; those read so far are given last first. -/
def propertyEntries (read : List (YamlValue × YamlValue)) :
    List (YamlValue × YamlValue) → Fit (List (YamlValue × YamlValue))
  | [] => .ok read.reverse
  | (key, v) :: rest => do
    let key ← key.asProperty
    if hasKey read key then .error .collision
    else
      let v ← v.asProperty
      propertyEntries ((key, v) :: read) rest

end

/-- The entries of a map with texts for keys; of those with one key the last counts. -/
def asProperties (v : YamlValue) : Fit (NameMap YamlValue) := do
  let entries ← v.asEntries .map
  let named ← entries.mapM fun e => do
    let key ← e.1.asText .text
    return (key, ← e.2.asProperty)
  return .ofList named

end YamlValue

/-- A kind of record: what it is called, and the keys of its fields as messages list them. A field may
have several keys. -/
structure RecordKind (F : Type) where
  title : String
  keys : List (String × F)

/-- The field that a key means. -/
def RecordKind.field {F : Type} (kind : RecordKind F) (key : YamlValue) : Fit F := do
  let name ← key.asText .key
  match kind.keys.lookup name with
  | some f => .ok f
  | none => .error (.unknown name (kind.keys.map (·.1)))

/-- A record read field by field: each is put into a draft. -/
def RecordKind.read {F δ : Type} (kind : RecordKind F) (put : δ → F → YamlValue → Fit δ) (blank : δ)
    (v : YamlValue) : Fit δ := do
  let entries ← v.asEntries (.record kind.title)
  entries.foldlM (fun draft e => do put draft (← kind.field e.1) e.2) blank

/-- A field's value, which must not be there already. -/
def once {α : Type} (key : String) (present : Option α) (value : Fit α) : Fit (Option α) :=
  match present with
  | some _ => .error (.duplicate key)
  | none => value.map some

/-- A field's value, which must be there. -/
def required {α : Type} (key : String) (present : Option α) : Fit α :=
  match present with
  | some a => .ok a
  | none => .error (.missing key)

/-! ### Integrations -/

namespace IntegrationDeclaration

/-- The fields of an integration. -/
inductive Field where
  | name
  | catalogType
  | tableFormat
  | fileFormat
  | externalVolume
  | properties
  deriving DecidableEq, Repr

/-- The keys of an integration. -/
def kind : RecordKind Field where
  title := "IntegrationSpec"
  keys :=
    [("integration_name", .name), ("name", .name), ("catalog_type", .catalogType),
      ("table_format", .tableFormat), ("file_format", .fileFormat),
      ("external_volume", .externalVolume), ("adapter_properties", .properties)]

/-- The fields of an integration that have been read. -/
structure Draft where
  name : Option String := none
  catalogType : Option String := none
  tableFormat : Option (Option String) := none
  fileFormat : Option (Option String) := none
  externalVolume : Option (Option String) := none
  properties : Option (NameMap YamlValue) := none

/-- One more field. -/
def Draft.put (d : Draft) (f : Field) (v : YamlValue) : Fit Draft :=
  match f with
  | .name => (once "name" d.name (v.asText .text)).map fun name => { d with name }
  | .catalogType =>
    (once "catalog_type" d.catalogType (v.asText .text)).map fun catalogType =>
      { d with catalogType }
  | .tableFormat =>
    (once "table_format" d.tableFormat v.asOptionalText).map fun tableFormat =>
      { d with tableFormat }
  | .fileFormat =>
    (once "file_format" d.fileFormat v.asOptionalText).map fun fileFormat => { d with fileFormat }
  | .externalVolume =>
    (once "external_volume" d.externalVolume v.asOptionalText).map fun externalVolume =>
      { d with externalVolume }
  | .properties =>
    (once "adapter_properties" d.properties v.asProperties).map fun properties =>
      { d with properties }

/-- The integration, once all fields have been read. -/
def Draft.finish (d : Draft) : Fit IntegrationDeclaration := do
  let name ← required "name" d.name
  let catalogType ← required "catalog_type" d.catalogType
  return {
    name, catalogType
    tableFormat := d.tableFormat.join
    fileFormat := d.fileFormat.join
    externalVolume := d.externalVolume.join
    properties := d.properties.getD .empty
  }

/-- The integration that a value spells out. -/
def ofDocument (v : YamlValue) : Fit IntegrationDeclaration :=
  kind.read Draft.put {} v >>= Draft.finish

end IntegrationDeclaration

/-! ### Catalogs -/

namespace CatalogDeclaration

/-- The fields of a catalog. -/
inductive Field where
  | name
  | active
  | writes
  | reads
  deriving DecidableEq, Repr

/-- The keys of a catalog. -/
def kind : RecordKind Field where
  title := "CatalogSpec"
  keys :=
    [("catalog_name", .name), ("name", .name), ("active_write_integration", .active),
      ("write_integrations", .writes), ("read_integrations", .reads)]

/-- The fields of a catalog that have been read. -/
structure Draft where
  name : Option String := none
  active : Option String := none
  writes : Option (List IntegrationDeclaration) := none
  reads : Option (List IntegrationDeclaration) := none

/-- One more field. -/
def Draft.put (d : Draft) (f : Field) (v : YamlValue) : Fit Draft :=
  match f with
  | .name => (once "name" d.name (v.asText .text)).map fun name => { d with name }
  | .active =>
    (once "active_write_integration" d.active (v.asText .text)).map fun active => { d with active }
  | .writes =>
    (once "write_integrations" d.writes (v.asList IntegrationDeclaration.ofDocument)).map
      fun writes => { d with writes }
  | .reads =>
    (once "read_integrations" d.reads (v.asList IntegrationDeclaration.ofDocument)).map
      fun reads => { d with reads }

/-- The catalog, once all fields have been read. -/
def Draft.finish (d : Draft) : Fit CatalogDeclaration := do
  let name ← required "name" d.name
  let active ← required "active_write_integration" d.active
  let writes ← required "write_integrations" d.writes
  return { name, active, writes, reads := d.reads.getD [] }

/-- The catalog that a value spells out. -/
def ofDocument (v : YamlValue) : Fit CatalogDeclaration :=
  kind.read Draft.put {} v >>= Draft.finish

end CatalogDeclaration

/-! ### All declarations -/

namespace Declarations

/-- The only key at the top. -/
def kind : RecordKind Unit where
  title := "DbtCatalogs"
  keys := [("catalogs", ())]

/-- The catalogs, once they have been read. -/
def put (catalogs : Option (List CatalogDeclaration)) (_ : Unit) (v : YamlValue) :
    Fit (Option (List CatalogDeclaration)) :=
  once "catalogs" catalogs (v.asList CatalogDeclaration.ofDocument)

/-- The declarations that a value spells out. -/
def ofDocument (v : YamlValue) : Fit Declarations := do
  let catalogs ← kind.read put none v
  return ⟨← required "catalogs" catalogs⟩

end Declarations

/-! ### Writing -/

/-- A text, or null where none is given. -/
def YamlValue.ofOptionalText : Option String → YamlValue
  | some s => .text s
  | none => .null

/-- A map with texts for keys. -/
def YamlValue.ofEntries (entries : List (String × YamlValue)) : YamlValue :=
  .map (entries.map fun e => (.text e.1, e.2))

/-- The value that spells out an integration. -/
def IntegrationDeclaration.document (d : IntegrationDeclaration) : YamlValue :=
  .ofEntries [("name", .text d.name), ("catalog_type", .text d.catalogType),
    ("table_format", .ofOptionalText d.tableFormat), ("file_format", .ofOptionalText d.fileFormat),
    ("external_volume", .ofOptionalText d.externalVolume),
    ("adapter_properties", .ofEntries d.properties.entries)]

/-- The value that spells out a catalog. -/
def CatalogDeclaration.document (c : CatalogDeclaration) : YamlValue :=
  .ofEntries [("name", .text c.name), ("active_write_integration", .text c.active),
    ("write_integrations", .list (c.writes.map IntegrationDeclaration.document)),
    ("read_integrations", .list (c.reads.map IntegrationDeclaration.document))]

/-- The value that spells out declarations. -/
def Declarations.document (d : Declarations) : YamlValue :=
  .ofEntries [("catalogs", .list (d.catalogs.map CatalogDeclaration.document))]

end Lakehouse
