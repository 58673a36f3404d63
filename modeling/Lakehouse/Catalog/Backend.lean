import Lakehouse.Catalog.Format

/-!
# Backends

The warehouse that a project runs on, and the catalog types that it can work with.
-/

namespace Lakehouse

/-- A warehouse. -/
inductive Backend where
  | postgres
  | snowflake
  | bigquery
  | redshift
  | athena
  deriving DecidableEq, Repr

namespace Backend

/-- Every backend. -/
def all : List Backend :=
  [postgres, snowflake, bigquery, redshift, athena]

/-- The token of a backend. -/
def token : Backend → String
  | postgres => "postgres"
  | snowflake => "snowflake"
  | bigquery => "bigquery"
  | redshift => "redshift"
  | athena => "athena"

/-- The backend with a token, in any ASCII case; blanks count. -/
def read? (raw : String) : Option Backend :=
  readToken? token all raw

/-- The backend with exactly this token. -/
def ofToken? (raw : String) : Option Backend :=
  all.find? fun b => b.token == raw

/-- The catalog types that a backend can write to or read from. -/
def supportedTypes : Backend → List CatalogType
  | postgres => [.infoSchema]
  | snowflake => [.infoSchema, .builtIn, .icebergRest, .awsGlue]
  | bigquery => [.infoSchema, .biglakeMetastore]
  | redshift => [.infoSchema, .glue]
  | athena => [.infoSchema, .glue, .awsGlue]

/-- The backend can work with the catalog type. -/
def supports (b : Backend) (t : CatalogType) : Bool :=
  b.supportedTypes.contains t

end Backend

end Lakehouse
