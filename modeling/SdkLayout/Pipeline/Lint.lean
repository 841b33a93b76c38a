import SdkLayout.Artifact
import SdkLayout.Graph.Relocation
import SdkLayout.Pipeline.Diagnostic

/-!
# Lints

A lint looks at an API before it is planned and warns about declarations that end up somewhere
unexpected. The two standard lints look at packages: those named like a keyword, whose directories
are escaped, and those that the planner writes into itself. Each package is reported once, at the
first declaration in it.
-/

namespace SdkLayout

/-- A check of an API. -/
structure Lint where
  name : String
  description : String
  check : Api → Config → List Diagnostic

/-- All declared paths with the identifiers that declare them, table by table. -/
def Api.declaredPaths (api : Api) : List (String × DeclarationPath) :=
  (api.types.entries.map fun e => (e.1.text, e.2.path))
    ++ (api.errors.entries.map fun e => (e.1.text, e.2.path))
    ++ (api.services.entries.map fun e => (e.1.text, e.2.path))
    ++ (api.subpackages.entries.map fun e => (e.1.text, e.2.path))

namespace Lint

/-- A warning of a lint about a declaration. -/
def warning (message location : String) : Diagnostic :=
  ⟨.warning, "validate", message, some location⟩

/-! ### Packages named like keywords -/

/-- The directory that a package would have if it were not escaped. -/
def plainSegment (n : Name) : String :=
  lowercase n.camel.plain

/-- The packages named like keywords, with the declarations in them. -/
def keywordPackages (api : Api) : List (String × Name) :=
  (api.declaredPaths.flatMap fun e => e.2.packagePath.map fun n => (e.1, n)).filter fun e =>
    isKeyword (plainSegment e.2)

/-- Warns about packages named like keywords. -/
def keywordPackage : Lint where
  name := "keyword-package"
  description := "Check package names are not Go keywords"
  check api _ :=
    (distinctBy (fun e => plainSegment e.2) (keywordPackages api)).map fun e =>
      warning ("package '" ++ plainSegment e.2 ++ "' is a Go keyword and will be placed in '"
        ++ e.2.segment ++ "/'") e.1

/-! ### Packages of the planner -/

/-- The top-level packages that the planner writes into. -/
def reservedPackages (config : Config) : List String :=
  sharedName :: if config.mode.placesClient then [corePackage] else []

/-- The top-level packages of all declarations. -/
def topPackages (api : Api) : List (String × String) :=
  api.declaredPaths.filterMap fun e => e.2.dirs.head?.map fun d => (e.1, d)

/-- Warns about declarations in packages of the planner. -/
def reservedPackage : Lint where
  name := "reserved-package"
  description := "Check declarations avoid the shared and core packages"
  check api config :=
    (distinctBy Prod.snd
        ((topPackages api).filter fun e => (reservedPackages config).contains e.2)).map fun e =>
      warning ("package '" ++ e.2 ++ "' is also written by the planner") e.1

/-- The lints that always run. -/
def standard : List Lint :=
  [keywordPackage, reservedPackage]

end Lint

end SdkLayout
