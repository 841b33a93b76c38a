import SdkLayout.Json.Value
import SdkLayout.Mode
import SdkLayout.Text.Blank

/-!
# Configurations

A configuration holds what the layout depends on besides the API: the import path of the SDK, the
mode, and whether a module is generated.

An SDK without an import path is a *single module*: its packages cannot import each other.
-/

namespace SdkLayout

/-- The module that an SDK is published as. -/
structure ModuleConfig where
  path : String
  version : Option String
  deriving DecidableEq, Repr

/-- The resolved configuration of a run. -/
structure Config where
  /-- The import path of the root package, empty for a single module. -/
  importPath : String
  mode : Mode
  /-- Whether optional values tell absence from null. -/
  explicitNull : Bool
  organization : Option String
  module : Option ModuleConfig
  deriving DecidableEq, Repr

namespace Config

/-- The configuration of a client without import path and module. -/
def default : Config :=
  ⟨"", .client, false, none, none⟩

/-- Whether packages cannot import each other. -/
def isSingleModule (c : Config) : Bool :=
  c.importPath.isEmpty

end Config

/-! ### Import paths -/

/-- Why a text is no import path. -/
inductive ImportPathFault where
  | outerSlash
  | blank
  deriving DecidableEq, Repr

/-- The wording of a fault of an import path. -/
def ImportPathFault.reason : ImportPathFault → String
  | .outerSlash => "import path cannot start or end with '/'"
  | .blank => "import path cannot contain whitespace"

/-- What is wrong with a text as an import path. -/
def importPathFault? (s : String) : Option ImportPathFault :=
  let cs := s.toList
  if cs.head? = some '/' ∨ cs.getLast? = some '/' then some .outerSlash
  else if cs.any Text.isBlank then some .blank
  else none

/-- The configuration with another import path. -/
def Config.withImportPath (c : Config) (path : String) : Except ImportPathFault Config :=
  match importPathFault? path with
  | some fault => .error fault
  | none => .ok { c with importPath := path }

/-! ### JSON form -/

/-- The JSON form of a module. -/
def ModuleConfig.toJson (m : ModuleConfig) : Json :=
  .object (Json.member "path" (.string m.path)
    ++ Json.optionalMember "version" (m.version.map .string))

/-- The JSON form of a configuration. -/
def Config.toJson (c : Config) : Json :=
  .object (Json.member "import_path" (.string c.importPath)
    ++ Json.member "mode" (.string c.mode.name)
    ++ Json.member "enable_explicit_null" (.bool c.explicitNull)
    ++ Json.optionalMember "organization" (c.organization.map .string)
    ++ Json.optionalMember "module" (c.module.map ModuleConfig.toJson))

end SdkLayout
