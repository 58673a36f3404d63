/-!
# Failures

Every operation that can fail answers with one kind of record: what went wrong (`FailureKind`), a
message, and the text of the failure behind it, if there is one.

- `FailureKind.category`: how a caller is expected to react.
- `Failure.display`: the message with its kind in front. A driver's message already names its backend
  and is shown alone; without a message the kind stands alone.
- `Failure.ofTask`, `Failure.withCause`, `Failure.toTemplate` and `TemplateFailure.toFailure`: the ways
  in which one failure becomes the cause of another.
-/

namespace Lakehouse

/-- What went wrong. -/
inductive FailureKind where
  | internal
  /-- Something about the project's configuration. -/
  | configuration
  /-- The name is taken. -/
  | alreadyExists
  /-- The name is unknown. -/
  | notFound
  /-- The backend does not know the catalog type. -/
  | notSupported
  /-- A property of an integration is missing or malformed. -/
  | invalidIntegrationConfig
  /-- What a model asks for cannot be resolved. -/
  | resolution
  /-- One task of a metadata collection failed. -/
  | aggregationTask
  /-- A predicate fits no chunk. -/
  | chunking
  | driver
  /-- Columnar data that does not fit together. -/
  | columnar
  | cancelled
  | io
  /-- A text is not valid JSON. -/
  | json
  /-- A text is not valid YAML, or does not have the expected shape. -/
  | yaml
  deriving DecidableEq, Repr

/-- How a caller is expected to react to a failure. -/
inductive FailureCategory where
  /-- Fatal while configuration is loaded. -/
  | configuration
  /-- Fatal to one model. -/
  | resolution
  /-- Reported beside partial results. -/
  | aggregationTask
  /-- Fatal to one call. -/
  | chunking
  | other
  deriving DecidableEq, Repr

namespace FailureKind

/-- The kind as shown in front of a message. -/
def title : FailureKind → String
  | internal => "Internal Error"
  | configuration => "Configuration Error"
  | alreadyExists => "Already Exists"
  | notFound => "Not Found"
  | notSupported => "Not Supported"
  | invalidIntegrationConfig => "Invalid Integration Config"
  | resolution => "Resolution Error"
  | aggregationTask => "Aggregation Task Error"
  | chunking => "Chunking Error"
  | driver => "Driver Error"
  | columnar => "Arrow Error"
  | cancelled => "Cancelled"
  | io => "IoError"
  | json => "Serde JSON Error"
  | yaml => "Serde YAML Error"

/-- Problems of configuration are fatal while it is loaded; a malformed configuration file is one of
them. -/
def category : FailureKind → FailureCategory
  | configuration | alreadyExists | notFound | notSupported | invalidIntegrationConfig | yaml =>
    .configuration
  | resolution => .resolution
  | aggregationTask => .aggregationTask
  | chunking => .chunking
  | internal | driver | columnar | cancelled | io | json => .other

end FailureKind

/-- A failure: its kind, a message, and the text of the failure behind it. -/
structure Failure where
  kind : FailureKind
  message : String
  cause : Option String := none
  deriving DecidableEq, Repr

/-- The result of an operation that can fail. -/
abbrev Answer (α : Type) : Type := Except Failure α

/-- A rule for the value of an option, if the option is set. -/
def optional {α β : Type} (rule : α → Answer β) : Option α → Answer (Option β)
  | none => .ok none
  | some a => (rule a).map some

namespace Failure

/-- The message with its kind in front. -/
def display (f : Failure) : String :=
  if f.message = "" then f.kind.title
  else if f.kind = .driver then f.message
  else f.kind.title ++ ": " ++ f.message

/-- Another failure put behind this one. -/
def withCause (f : Failure) (cause : String) : Failure :=
  { f with cause := some cause }

/-- A failure of the project's configuration. -/
def ofConfiguration (message : String) : Failure :=
  { kind := .configuration, message }

/-- A failure of one collection task, labelled with the task. -/
def ofTask (label : String) (f : Failure) : Failure :=
  { kind := .aggregationTask, message := label ++ ": " ++ f.display, cause := some f.display }

/-- A failure of reading or writing, with the text that the system gives. -/
def ofIo (text : String) : Failure :=
  { kind := .io, message := text }

/-- A collection task was called off. -/
def ofCancelled : Failure :=
  { kind := .cancelled, message := "" }

end Failure

/-- A failure as the template layer carries it: an invalid operation with a detail. -/
structure TemplateFailure where
  detail : String
  cause : Option String
  deriving DecidableEq, Repr

/-- The text a template's author sees. -/
def TemplateFailure.display (t : TemplateFailure) : String :=
  "invalid operation: " ++ t.detail

/-- A failure on its way out to a template. -/
def Failure.toTemplate (f : Failure) : TemplateFailure :=
  { detail := f.display, cause := some f.display }

/-- A failure that comes back from a template: a problem of the configuration that the template is
part of. -/
def TemplateFailure.toFailure (t : TemplateFailure) : Failure :=
  { kind := .configuration, message := t.display, cause := some t.display }

/-- What a call that broke off leaves behind: its text, if it left one. -/
structure Panic where
  text : Option String
  deriving DecidableEq, Repr

/-- A task that broke off, as a failure. -/
def Panic.toFailure (p : Panic) : Failure :=
  { kind := .internal, message := "task panicked: " ++ p.text.getD "unknown panic payload" }

end Lakehouse
