import Lakehouse.Failure
import Lakehouse.Text.Blank
import Lakehouse.Text.Token

/-!
# Catalog types and formats

The vocabulary in which storage is described. Each word has one token, written in lower case and read
in any ASCII case, blanks at either end aside.

- `CatalogType`: what keeps track of a table, and `CatalogType.behaviour`: which of the four ways to
  resolve a table goes with it.
- `TableFormat`, `FileFormat`: how a table and its files are laid out, and the defaults that go with a
  catalog type.
-/

namespace Lakehouse

/-- A word that is read from a token in any case: the first of `words` whose token it is. -/
def readToken? {α : Type} (token : α → String) (words : List α) (raw : String) : Option α :=
  words.find? fun w => Text.sameToken raw (token w)

/-- What keeps track of a table. -/
inductive CatalogType where
  /-- The warehouse's own storage. -/
  | infoSchema
  /-- Tables managed by the warehouse, addressed relative to its volume. -/
  | builtIn
  /-- Tables managed by the warehouse at a location that names the volume. -/
  | biglakeMetastore
  /-- Tables registered in an external catalog through a bound schema. -/
  | glue
  /-- Tables of a catalog service that are read and not written. -/
  | icebergRest
  /-- Tables of an external catalog that are read and not written. -/
  | awsGlue
  deriving DecidableEq, Repr

/-- The four ways to resolve a table's storage. -/
inductive CatalogBehaviour where
  | internal
  | managedExternal
  | externalWritable
  | externalReadOnly
  deriving DecidableEq, Repr

/-- How a table is laid out. -/
inductive TableFormat where
  | default
  | iceberg
  deriving DecidableEq, Repr

/-- How a table's files are laid out. -/
inductive FileFormat where
  | default
  | parquet
  | delta
  deriving DecidableEq, Repr

/-- Names as alternatives, for a message. -/
def alternatives (names : List String) : String :=
  Text.joinWith "|" names

namespace CatalogType

/-- Every catalog type, in the order in which messages list them. -/
def all : List CatalogType :=
  [infoSchema, builtIn, biglakeMetastore, glue, icebergRest, awsGlue]

/-- The token of a catalog type. -/
def token : CatalogType → String
  | infoSchema => "info_schema"
  | builtIn => "built_in"
  | biglakeMetastore => "biglake_metastore"
  | glue => "glue"
  | icebergRest => "iceberg_rest"
  | awsGlue => "aws_glue"

/-- The token in capitals, as data definition statements show it. -/
def capitalToken (t : CatalogType) : String :=
  String.ofList (t.token.toList.map Char.toUpper)

/-- How a table of this type is resolved. -/
def behaviour : CatalogType → CatalogBehaviour
  | infoSchema => .internal
  | builtIn | biglakeMetastore => .managedExternal
  | glue => .externalWritable
  | icebergRest | awsGlue => .externalReadOnly

/-- The table format where none is asked for. -/
def defaultTableFormat (t : CatalogType) : TableFormat :=
  if t.behaviour = .internal then .default else .iceberg

/-- The file format where none is asked for. -/
def defaultFileFormat (t : CatalogType) : FileFormat :=
  if t.behaviour = .internal then .default else .parquet

/-- The tokens of some catalog types as alternatives. -/
def listed (types : List CatalogType) : String :=
  alternatives (types.map token)

/-- The token names no catalog type. -/
def unknown (raw : String) : Failure :=
  { kind := .notSupported
    message := s!"catalog_type '{raw}' is not supported. Supported types: ({listed all})" }

/-- Reads a catalog type. -/
def parse (raw : String) : Answer CatalogType :=
  match readToken? token all (Text.trim raw) with
  | some t => .ok t
  | none => .error (unknown (Text.trim raw))

end CatalogType

namespace TableFormat

/-- Every table format, in the order in which messages list them. -/
def all : List TableFormat := [.default, .iceberg]

/-- The token of a table format. -/
def token : TableFormat → String
  | .default => "default"
  | .iceberg => "iceberg"

/-- The token names no table format. -/
def unknown (raw : String) : Failure :=
  let known := alternatives (all.map token)
  { kind := .invalidIntegrationConfig
    message := s!"Unsupported table_format '{raw}'. Must be one of ({known}) case insensitive." }

/-- Reads a table format. -/
def parse (raw : String) : Answer TableFormat :=
  match readToken? token all (Text.trim raw) with
  | some f => .ok f
  | none => .error (unknown (Text.trim raw))

end TableFormat

namespace FileFormat

/-- Every file format, in the order in which messages list them. -/
def all : List FileFormat := [.default, .parquet, .delta]

/-- The token of a file format. -/
def token : FileFormat → String
  | .default => "default"
  | .parquet => "parquet"
  | .delta => "delta"

/-- The token names no file format. -/
def unknown (raw : String) : Failure :=
  let known := alternatives (all.map token)
  { kind := .invalidIntegrationConfig
    message := s!"Unsupported file_format '{raw}'. Must be one of ({known}) case insensitive." }

/-- Reads a file format. -/
def parse (raw : String) : Answer FileFormat :=
  match readToken? token all (Text.trim raw) with
  | some f => .ok f
  | none => .error (unknown (Text.trim raw))

end FileFormat

end Lakehouse
