import SdkLayout.Api.Basic
import SdkLayout.Distinct

/-!
# Registry of generated names

Helpers that exist once per SDK must not collide with what is generated from the API. The registry
knows every exported name, of types, errors and variables, and every package that the file of a
service produces.
-/

namespace SdkLayout

/-- The names and packages that the SDK declares, each list in ascending order. -/
structure Registry where
  names : List String
  packages : List String
  deriving DecidableEq, Repr

namespace Registry

/-- The registry of the given names and packages. -/
def ofLists (names packages : List String) : Registry :=
  ⟨sortedStrings names, sortedStrings packages⟩

/-- The exported names of an API. -/
def exportedNames (api : Api) : List String :=
  api.types.values.map (fun t => t.name.exported)
    ++ api.errors.values.map (fun e => e.name.exported)
    ++ api.globals.map fun v => v.name.exported

/-- The packages that the files of services produce. -/
def servicePackages (api : Api) : List String :=
  api.services.values.filterMap fun s => s.path.file.map Name.segment

/-- The registry of an API. -/
def ofApi (api : Api) : Registry :=
  ofLists (exportedNames api) (servicePackages api)

/-- Whether a name is taken. -/
def hasName (r : Registry) (name : String) : Bool :=
  r.names.contains name

/-- Whether a package is taken. -/
def hasPackage (r : Registry) (package : String) : Bool :=
  r.packages.contains package

end Registry

end SdkLayout
