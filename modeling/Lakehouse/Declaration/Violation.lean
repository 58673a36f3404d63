import Lakehouse.Declaration.Basic
import Lakehouse.Failure
import Lakehouse.Text.Blank
import Lakehouse.Text.Token

/-!
# Rules for declarations

Names must say something and must not be given twice, and the integration that a catalog names as its
active one must be among those for writing. Of several violations the first counts: the names of all
catalogs come before what is in any of them.

- `Violation`: the ways to break the rules.
- `Declarations.violation?`: the first violation.
- `Declarations.validate`: the violation as a failure.
-/

namespace Lakehouse

/-- The ways to break the rules for declarations. -/
inductive Violation where
  | blankCatalog
  | duplicateCatalog (catalog : String)
  | blankActive (catalog : String)
  | blankIntegration (catalog : String)
  | duplicateIntegration (catalog integration : String)
  /-- No integration for writing has the name of the active one. -/
  | activeMissing (catalog active : String) (available : List String)
  deriving DecidableEq, Repr

/-- What a violation is called. -/
def Violation.message : Violation → String
  | blankCatalog => "Catalog field 'name' or 'catalog_name' must be non-empty"
  | duplicateCatalog catalog => s!"Duplicate catalog name '{catalog}'"
  | blankActive catalog => s!"In catalog '{catalog}', 'active_write_integration' must be non-empty"
  | blankIntegration catalog =>
    s!"Catalog '{catalog}' integration has no field 'name' or 'integration_name'"
  | duplicateIntegration catalog integration =>
    s!"Duplicate integration name '{integration}' in catalog '{catalog}'"
  | activeMissing catalog active available =>
    let choices := if available.isEmpty then "<none>" else Text.joinWith ", " available
    s!"In catalog '{catalog}', active_write_integration '{active}' not found. Available: {choices}"

/-- A violation in the declarations of a file. -/
def Violation.toFailure (path : String) (v : Violation) : Failure :=
  .ofConfiguration s!"{v.message} (in '{path}')"

/-- The first name that is blank, or that has been seen before. -/
def firstBadName? (blank : Violation) (duplicate : String → Violation) (seen : List String) :
    List String → Option Violation
  | [] => none
  | name :: rest =>
    if Text.isBlankText name then some blank
    else if seen.contains name then some (duplicate name)
    else firstBadName? blank duplicate (name :: seen) rest

/-- The first violation inside a catalog. -/
def CatalogDeclaration.violation? (c : CatalogDeclaration) : Option Violation :=
  if Text.isBlankText c.active then some (.blankActive c.name)
  else
    let names := c.integrations.map (·.name)
    let available := c.writes.map (·.name)
    (firstBadName? (.blankIntegration c.name) (.duplicateIntegration c.name) [] names).or
      (if available.contains c.active then none
        else some (.activeMissing c.name c.active available))

namespace Declarations

/-- The first violation. -/
def violation? (d : Declarations) : Option Violation :=
  (firstBadName? .blankCatalog .duplicateCatalog [] (d.catalogs.map (·.name))).or
    (d.catalogs.findSome? CatalogDeclaration.violation?)

/-- The rules hold for the declarations of a file. -/
def validate (path : String) (d : Declarations) : Answer Unit :=
  match d.violation? with
  | some v => .error (v.toFailure path)
  | none => .ok ()

end Declarations

end Lakehouse
