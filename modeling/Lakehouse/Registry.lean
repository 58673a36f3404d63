import Lakehouse.Declaration.Projection
import Lakehouse.Integration.Resolve

/-!
# Registries

The integrations that a project has declared, by name, for one backend. A model that names an
integration is resolved through it, and every other model through the backend's own storage.

- `Registry.new`, `Registry.add`: an empty registry; one more integration, under a name that is free,
  and the registry as it is then.
- `Registry.ofDeclarations`: everything that a project declares.
- `Registry.get`: an integration by name.
- `Registry.resolve`: the physical storage of a model.
-/

namespace Lakehouse

/-- The integrations of a project. -/
structure Registry where
  backend : Backend
  integrations : NameMap Integration
  /-- What models are resolved through that name no integration. -/
  native : Integration

namespace Registry

/-- The declaration of a backend's own storage. -/
def nativeConfig : IntegrationConfig :=
  .plain "info_schema" .infoSchema

/-- No integrations. -/
def new (b : Backend) : Answer Registry :=
  (Integration.onBackend b nativeConfig).map fun native => ⟨b, .empty, native⟩

/-- The name is taken. -/
def taken (name : String) : Failure :=
  { kind := .alreadyExists
    message := s!"Catalog integration '{name}' is already registered" }

/-- The integration that a declaration means, stored under its name. A name is never overwritten.
The registry stands beside the answer, which may be a failure. -/
def add (r : Registry) (c : IntegrationConfig) : Answer Integration × Registry :=
  if r.integrations.contains c.name then (.error (taken c.name), r)
  else
    match Integration.onBackend r.backend c with
    | .error f => (.error f, r)
    | .ok i => (.ok i, { r with integrations := r.integrations.insert i.name i })

/-- Every declaration in order, up to the first that cannot be added. -/
def addAll (r : Registry) : List IntegrationConfig → Answer Registry
  | [] => .ok r
  | c :: rest =>
    match r.add c with
    | (.error f, _) => .error f
    | (.ok _, next) => next.addAll rest

/-- Everything that a project declares. -/
def ofDeclarations (b : Backend) (d : Declarations) : Answer Registry := do
  let r ← new b
  r.addAll (← d.configs)

/-- The stored names in ascending order. -/
def names (r : Registry) : List String :=
  r.integrations.names

/-- How many integrations are stored. -/
def size (r : Registry) : Nat :=
  r.integrations.size

/-- Names in a message, or a word for none. -/
def listedNames (names : List String) : String :=
  if names.isEmpty then "<none>" else Text.joinWith ", " names

/-- The name is unknown. -/
def unknown (name : String) (known : List String) : Failure :=
  { kind := .notFound
    message := s!"Catalog integration '{name}' not found. Registered: {listedNames known}" }

/-- The integration stored under a name. -/
def get (r : Registry) (name : String) : Answer Integration :=
  match r.integrations.get? name with
  | some i => .ok i
  | none => .error (unknown name r.names)

/-- The physical storage of a model. -/
def resolve (r : Registry) (m : Model) : Answer StorageRelation :=
  match m.catalogName with
  | none => r.native.resolve m
  | some name =>
    match r.get name with
    | .error f => .error f
    | .ok i => i.resolve m

end Registry

end Lakehouse
