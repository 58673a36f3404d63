import Lakehouse.Catalog.Config
import Lakehouse.Model

/-!
# Options of integrations

Options are declared as plain texts and understood once, when an integration is built. What a model
overrides is understood by the same rules, so each rule is told which kind of failure to raise.

- `trackingToken`, `SerializationPolicy.parse`, `retentionDays`: the rules.
- `ManagedOptions`, `GlueOptions`, `ReadOnlyOptions`: the options of the three kinds of external
  storage, each with `ofConfig`.
-/

namespace Lakehouse

/-- How the files of a managed table are encoded. -/
inductive SerializationPolicy where
  | compatible
  | optimized
  deriving DecidableEq, Repr

namespace SerializationPolicy

/-- Both policies, in the order in which messages list them. -/
def all : List SerializationPolicy := [compatible, optimized]

/-- The token of a policy. -/
def token : SerializationPolicy → String
  | compatible => "COMPATIBLE"
  | optimized => "OPTIMIZED"

/-- The token names no policy. -/
def unknown (kind : FailureKind) (raw : String) : Failure :=
  let known := alternatives (all.map token)
  { kind
    message := s!"Invalid storage_serialization_policy '{raw}'. " ++
      s!"Must be one of ({known}) case insensitive." }

/-- Reads a policy. -/
def parse (kind : FailureKind) (raw : String) : Answer SerializationPolicy :=
  match readToken? token all (Text.trim raw) with
  | some p => .ok p
  | none => .error (unknown kind (Text.trim raw))

end SerializationPolicy

/-- The token for a truth value in a data definition statement. -/
def truthToken (b : Bool) : String :=
  if b then "TRUE" else "FALSE"

/-- The text is no truth value. -/
def notATruthValue (kind : FailureKind) (raw : String) : Failure :=
  { kind
    message := s!"Invalid change_tracking value '{raw}'. Must be a boolean or 'true'/'false'." }

/-- The token for a flag: a truth value, or its name in any ASCII case. -/
def trackingToken (kind : FailureKind) : Flag → Answer String
  | .bool b => .ok (truthToken b)
  | .text s =>
    if Text.sameToken (Text.trim s) "true" then .ok (truthToken true)
    else if Text.sameToken (Text.trim s) "false" then .ok (truthToken false)
    else .error (notATruthValue kind s)

/-- The longest retention, in days. -/
def mostRetentionDays : Nat := 90

/-- What is said of a number of days that cannot be used. -/
def daysProblem (key got : String) : String :=
  s!"'{key}' must be an integer in 0..={mostRetentionDays}, got {got}"

/-- A number of days within the limit. -/
def retentionDays (kind : FailureKind) (key : String) (days : Int) : Answer Nat :=
  if 0 ≤ days ∧ days ≤ mostRetentionDays then .ok days.toNat
  else .error { kind, message := daysProblem key (toString days) }

/-- A rule's answer for a property: a failure names the integration. -/
def IntegrationConfig.explain {α : Type} (c : IntegrationConfig) : Answer α → Answer α
  | .ok a => .ok a
  | .error f => .error (c.invalid f.message)

/-- The number of days that a property states. -/
def IntegrationConfig.daysProperty (c : IntegrationConfig) (key raw : String) : Answer Nat :=
  match Decimal.signed64? (Text.trim raw) with
  | none => .error (c.invalid (daysProblem key s!"'{raw}'"))
  | some n => c.explain (retentionDays .invalidIntegrationConfig key n)

/-- Options of tables that the warehouse manages. -/
structure ManagedOptions where
  baseLocationRoot : Option String
  baseLocationSubpath : Option String
  changeTracking : Option String
  serializationPolicy : Option SerializationPolicy
  dataRetentionDays : Option Nat
  maxExtensionDays : Option Nat
  deriving DecidableEq, Repr

/-- Understands the options of managed tables. A change-tracking property has to mean something even
when it is blank. -/
def ManagedOptions.ofConfig (c : IntegrationConfig) : Answer ManagedOptions := do
  let kind := FailureKind.invalidIntegrationConfig
  let changeTracking ← c.explain <|
    optional (fun raw => trackingToken kind (.text raw)) (c.properties.get? "change_tracking")
  let serializationPolicy ← c.explain <|
    optional (SerializationPolicy.parse kind) (c.property? "storage_serialization_policy")
  let retention := "data_retention_time_in_days"
  let dataRetentionDays ← optional (c.daysProperty retention) (c.property? retention)
  let extension := "max_data_extension_time_in_days"
  let maxExtensionDays ← optional (c.daysProperty extension) (c.property? extension)
  return {
    baseLocationRoot := c.property? "base_location_root"
    baseLocationSubpath := c.property? "base_location_subpath"
    changeTracking
    serializationPolicy
    dataRetentionDays
    maxExtensionDays
  }

/-- Options of tables that are registered in an external catalog. -/
structure GlueOptions where
  /-- The schema bound to the external catalog. -/
  externalSchema : String
  glueDatabase : Option String
  deriving DecidableEq, Repr

/-- The schema that tables are registered in is not named. -/
def missingExternalSchema (c : IntegrationConfig) : Failure :=
  c.invalid ("missing required adapter property 'external_schema'. It names the schema bound to " ++
    "the external catalog that tables are registered in.")

/-- Understands the options of registered tables. -/
def GlueOptions.ofConfig (c : IntegrationConfig) : Answer GlueOptions :=
  match c.property? "external_schema" with
  | none => .error (missingExternalSchema c)
  | some s => .ok ⟨Text.trim s, c.property? "glue_database"⟩

/-- Options of catalogs that are read and not written. -/
structure ReadOnlyOptions where
  catalogNamespace : Option String
  deriving DecidableEq, Repr

/-- Understands the options of a catalog that is only read. The property has an older name. -/
def ReadOnlyOptions.ofConfig (c : IntegrationConfig) : ReadOnlyOptions :=
  ⟨(c.property? "namespace").or (c.property? "catalog_namespace")⟩

end Lakehouse
