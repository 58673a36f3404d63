import Lakehouse.Declaration.Document
import Lakehouse.Declaration.Violation
import Lakehouse.Yaml.Document

/-!
# Loading declarations

The declarations in the text of a file: the text must be YAML, with a map at the top that spells out
declarations which keep the rules.

- `LoadFault`: the step at which loading stops, and why.
- `Declarations.load`: the declarations of a text.
-/

namespace Lakehouse

/-- The step at which loading stops, and why. -/
inductive LoadFault where
  /-- The text is no YAML document. -/
  | malformed
  | notMap
  | misfit (m : Misfit)
  | violation (v : Violation)

/-- The failure of a file that could not be read as declarations. -/
def unreadable (path problem : String) : Failure :=
  { kind := .yaml, message := s!"Failed to parse '{path}': {problem}", cause := some problem }

/-- A fault in the text of a file. -/
def LoadFault.toFailure (path : String) : LoadFault → Failure
  | malformed => unreadable path "malformed document"
  | notMap => .ofConfiguration s!"Top-level of '{path}' must be a YAML mapping"
  | misfit m => unreadable path m.message
  | violation v => v.toFailure path

/-- A map, whatever its tags. -/
def YamlValue.isMap (v : YamlValue) : Bool :=
  match v.untagged with
  | .map _ => true
  | _ => false

/-- The declarations of a text. -/
def Declarations.load (text : String) : Except LoadFault Declarations :=
  match YamlValue.read? text with
  | none => .error .malformed
  | some v =>
    if !v.isMap then .error .notMap
    else
      match Declarations.ofDocument v with
      | .error m => .error (.misfit m)
      | .ok d =>
        match d.violation? with
        | some violation => .error (.violation violation)
        | none => .ok d

end Lakehouse
