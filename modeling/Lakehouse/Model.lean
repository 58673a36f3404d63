import Lakehouse.Failure
import Lakehouse.Template.Value
import Lakehouse.Text.Blank
import Lakehouse.Text.Token

/-!
# Models

What one model asks for: which relation it is, through which integration it is stored, and which of
the integration's options it overrides. A model is read from a template value; an option that is
missing, null, blank or the word `none` is not set.

- `Model`: the options, each set or not.
- `Model.ofTemplate`: reading a model.
-/

namespace Lakehouse

/-- A truth value as written: a real one, or a text still to be understood. -/
inductive Flag where
  | bool (b : Bool)
  | text (s : String)
  deriving DecidableEq, Repr

/-- What a model asks for. -/
structure Model where
  database : Option String := none
  schema : Option String := none
  identifier : Option String := none
  catalogName : Option String := none
  tableFormat : Option String := none
  fileFormat : Option String := none
  externalVolume : Option String := none
  storageUri : Option String := none
  baseLocationRoot : Option String := none
  baseLocationSubpath : Option String := none
  partitionBy : Option (List String) := none
  externalSchema : Option String := none
  changeTracking : Option Flag := none
  serializationPolicy : Option String := none
  dataRetentionDays : Option Int := none
  maxExtensionDays : Option Int := none
  deriving DecidableEq, Repr

namespace Model

/-- The word `none` in any ASCII case, and the empty text, set nothing. -/
def unlessUnset (s : String) : Option String :=
  if s = "" ∨ Text.sameToken s "none" then none else some s

/-- A defined member of a template value. -/
def defined? (v : TemplateValue) (key : String) : Option TemplateValue :=
  let m := v.member key
  if m.isDefined then some m else none

/-- A text without its outer blanks; anything else as a template would show it. -/
def textOf (v : TemplateValue) : String :=
  match v.text? with
  | some s => Text.trim s
  | none => v.rendered

/-- A text as it is; anything else as a template would show it. -/
def rawTextOf (v : TemplateValue) : String :=
  v.text?.getD v.rendered

/-- An option that is a text. -/
def textOption (v : TemplateValue) (key : String) : Option String :=
  (defined? v key).bind fun m => unlessUnset (textOf m)

/-- An option with an older name, which counts where the newer one sets nothing. -/
def renamedOption (v : TemplateValue) (key older : String) : Option String :=
  (textOption v key).or (textOption v older)

/-- An option that is a truth value. A text is kept as it is, so that one which means nothing can be
refused where the flag is used. -/
def flagOption (v : TemplateValue) (key : String) : Option Flag :=
  (defined? v key).map fun m =>
    match m with
    | .bool b => .bool b
    | m => .text (rawTextOf m)

/-- An option that is a list of texts; a single text is a list of one. -/
def listOption (v : TemplateValue) (key : String) : Option (List String) :=
  (defined? v key).bind fun m =>
    match m with
    | .list items => some (items.map rawTextOf)
    | _ => (textOption v key).map fun s => [s]

/-- The option is not a whole number. -/
def notAnInteger (key got : String) : Failure :=
  { kind := .resolution
    message := s!"Model config '{key}' must be an integer, got '{got}'" }

/-- An option that is a whole number, as such or as a text. -/
def integerOption (v : TemplateValue) (key : String) : Answer (Option Int) :=
  match defined? v key with
  | none => .ok none
  | some m =>
    match m.toWord?, m.text? with
    | some n, _ => .ok (some n)
    | none, none => .error (notAnInteger key m.rendered)
    | none, some s =>
      match unlessUnset (Text.trim s) with
      | none => .ok none
      | some t =>
        match Decimal.signed64? t with
        | some n => .ok (some n)
        | none => .error (notAnInteger key t)

/-- Reads a model. -/
def ofTemplate (v : TemplateValue) : Answer Model := do
  let dataRetentionDays ← integerOption v "data_retention_time_in_days"
  let maxExtensionDays ← integerOption v "max_data_extension_time_in_days"
  return {
    database := textOption v "database"
    schema := textOption v "schema"
    identifier := renamedOption v "identifier" "alias"
    catalogName := renamedOption v "catalog_name" "catalog"
    tableFormat := textOption v "table_format"
    fileFormat := textOption v "file_format"
    externalVolume := textOption v "external_volume"
    storageUri := textOption v "storage_uri"
    baseLocationRoot := textOption v "base_location_root"
    baseLocationSubpath := textOption v "base_location_subpath"
    partitionBy := listOption v "partition_by"
    externalSchema := textOption v "external_schema"
    changeTracking := flagOption v "change_tracking"
    serializationPolicy := textOption v "storage_serialization_policy"
    dataRetentionDays
    maxExtensionDays
  }

/-- How messages name a model. -/
def label (m : Model) : String :=
  match m.schema, m.identifier with
  | some s, some i => s ++ "." ++ i
  | none, some i => i
  | _, none => "<unnamed>"

end Model

end Lakehouse
