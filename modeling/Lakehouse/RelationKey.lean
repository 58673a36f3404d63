import Lakehouse.Text.LowerCase

/-!
# Keys of relations

A relation is named by its database, its schema and its identifier, in whatever case it was declared;
two declarations that differ in case only name the same relation. The key of a relation is its name in
lower case.

- `Relation`, `Schema`: names as declared.
- `RelationKey`, `SchemaKey`: the keys, with `RelationKey.of` and `SchemaKey.of`. Keys are ordered by
  database, schema and identifier.
-/

namespace Lakehouse

/-- A relation as declared. -/
structure Relation where
  database : String
  schema : String
  identifier : String
  deriving DecidableEq, Repr

/-- A schema as declared. -/
structure Schema where
  database : String
  schema : String
  deriving DecidableEq, Repr

/-- What identifies a relation, whatever the case of its name. -/
structure RelationKey where
  database : String
  schema : String
  identifier : String
  deriving DecidableEq, Repr

/-- What identifies a schema, whatever the case of its name. -/
structure SchemaKey where
  database : String
  schema : String
  deriving DecidableEq, Repr

namespace SchemaKey

/-- The key of the schema with these names. -/
def of (database schema : String) : SchemaKey :=
  ⟨Text.lower database, Text.lower schema⟩

/-- The names of a key with a point between them. -/
def text (k : SchemaKey) : String :=
  k.database ++ "." ++ k.schema

/-- By database, then by schema. -/
def le (a b : SchemaKey) : Bool :=
  a.database < b.database || (a.database == b.database && a.schema ≤ b.schema)

end SchemaKey

namespace RelationKey

/-- The key of the relation with these names. -/
def of (database schema identifier : String) : RelationKey :=
  ⟨Text.lower database, Text.lower schema, Text.lower identifier⟩

/-- The key of the schema that the relation is in. -/
def schemaKey (k : RelationKey) : SchemaKey :=
  ⟨k.database, k.schema⟩

/-- The names of a key with points between them. -/
def text (k : RelationKey) : String :=
  k.database ++ "." ++ k.schema ++ "." ++ k.identifier

/-- By database, then by schema, then by identifier. -/
def le (a b : RelationKey) : Bool :=
  a.database < b.database ||
    (a.database == b.database &&
      (a.schema < b.schema || (a.schema == b.schema && a.identifier ≤ b.identifier)))

end RelationKey

namespace Schema

/-- The key of a schema. -/
def key (s : Schema) : SchemaKey :=
  .of s.database s.schema

/-- The names as declared, with a point between them. -/
def text (s : Schema) : String :=
  s.database ++ "." ++ s.schema

end Schema

namespace Relation

/-- The key of a relation. -/
def key (r : Relation) : RelationKey :=
  .of r.database r.schema r.identifier

/-- The key of the schema that the relation is in. -/
def schemaKey (r : Relation) : SchemaKey :=
  .of r.database r.schema

/-- The names as declared, with points between them. -/
def text (r : Relation) : String :=
  r.database ++ "." ++ r.schema ++ "." ++ r.identifier

end Relation

end Lakehouse
