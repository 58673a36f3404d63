import Lakehouse.RelationKey

/-!
# Planning a collection

Metadata is collected schema by schema. A schema in which a project declares many relations is not
asked for as a whole; each of its relations is asked for by itself.

- `CatalogTask`: one question to the warehouse.
- `distinctBy`: the first of those that share a key.
- `RelationGroups`: relations by the schema that they are declared in.
- `planTasks`: the tasks for the schemas in use.
-/

namespace Lakehouse

/-- One question to the warehouse. -/
inductive CatalogTask where
  /-- Everything in a schema, with the relations that are declared in it. -/
  | schema (schema : Schema) (relations : List Relation)
  /-- One relation. -/
  | relation (relation : Relation)
  deriving DecidableEq, Repr

/-- How messages name a task. -/
def CatalogTask.label : CatalogTask → String
  | schema s _ => "schema " ++ s.text
  | relation r => "relation " ++ r.text

/-- Of elements with one key only the first is kept. The keys in `seen` count as taken. -/
def distinctFrom {α κ : Type} [DecidableEq κ] (key : α → κ) (seen : List κ) : List α → List α
  | [] => []
  | a :: rest =>
    if key a ∈ seen then distinctFrom key seen rest
    else a :: distinctFrom key (key a :: seen) rest

/-- Of elements with one key only the first is kept. -/
def distinctBy {α κ : Type} [DecidableEq κ] (key : α → κ) (as : List α) : List α :=
  distinctFrom key [] as

/-- The most relations that are asked for with their schema. -/
def mostRelationsPerSchema : Nat := 100

/-- The tasks for one schema in which some relations are declared. -/
def schemaTasks (s : Schema) (declared : List Relation) : List CatalogTask :=
  if mostRelationsPerSchema < declared.length then declared.map .relation
  else [.schema s declared]

/-- Relations by the key of their schema. -/
abbrev RelationGroups : Type := List (SchemaKey × List Relation)

namespace RelationGroups

/-- The relations of a schema. -/
def group (groups : RelationGroups) (k : SchemaKey) : List Relation :=
  (groups.lookup k).getD []

/-- The groups of the other schemas. -/
def without (groups : RelationGroups) (k : SchemaKey) : RelationGroups :=
  groups.filter fun e => e.1 != k

/-- One more relation, at the end of the group of its schema. -/
def add (groups : RelationGroups) (r : Relation) : RelationGroups :=
  (r.schemaKey, groups.group r.schemaKey ++ [r]) :: groups.without r.schemaKey

/-- Relations put into groups. -/
def of (relations : List Relation) : RelationGroups :=
  relations.foldl add []

end RelationGroups

/-- The tasks for schemas, one after another. Each schema takes its relations out of the groups. -/
def tasksFor (groups : RelationGroups) : List Schema → List CatalogTask
  | [] => []
  | s :: rest => schemaTasks s (groups.group s.key) ++ tasksFor (groups.without s.key) rest

/-- The tasks for the schemas in use, in order. -/
def planTasks (relations : List Relation) (schemas : List Schema) : List CatalogTask :=
  tasksFor (.of (distinctBy Relation.key relations)) (distinctBy Schema.key schemas)

end Lakehouse
