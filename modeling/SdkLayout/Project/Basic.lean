import SdkLayout.Files.Access
import SdkLayout.Files.Path
import SdkLayout.Input.Definition
import SdkLayout.Input.Manifest

/-!
# Projects

A project is a manifest at its path, together with the configuration and the API definition that
belong to it. Both may be replaced when a project is loaded. Paths in the manifest are relative to
its directory, while a path given in place of one is taken as it is.
-/

namespace SdkLayout

/-- A manifest and the path of its file. -/
structure ManifestFile where
  path : String
  manifest : Manifest
  deriving DecidableEq, Repr

namespace ManifestFile

/-- The directory of the manifest. -/
def root (f : ManifestFile) : String :=
  (Path.parent? f.path).getD "."

/-- The path of the API definition. -/
def definitionPath (f : ManifestFile) : String :=
  Path.join f.root f.manifest.definition

end ManifestFile

/-- A project that is ready to be planned. -/
structure Project where
  file : ManifestFile
  config : Config
  api : Api
  deriving DecidableEq

/-- What is given in place of settings of the manifest. -/
structure Overrides where
  /-- The path of the API definition. -/
  definition : Option String
  importPath : Option String
  deriving DecidableEq, Repr

namespace Project

/-- The configuration of a manifest, with another import path if one is given. -/
def configOf (m : Manifest) (importPath : Option String) : Except InputError Config :=
  match importPath with
  | none => .ok m.config
  | some path => m.config.replaceImportPath path

/-- The text of a file, if it could be read. -/
def textOf (path : String) (contents : Option String) : Except InputError String :=
  match contents with
  | none => .error (.unreadable path)
  | some text => .ok text

variable {m : Type → Type} [Monad m]

/-- Opens a manifest. -/
def openManifest (files : FileAccess m) (path : String) :
    m (Except InputError ManifestFile) := do
  let contents ← files.read path
  return do
    let manifest ← Manifest.read (← textOf path contents) path
    return ⟨path, manifest⟩

/-- Reads an API definition from a file. -/
def readDefinition (files : FileAccess m) (path : String) : m (Except InputError Api) := do
  let contents ← files.read path
  return do Api.read (← textOf path contents) path

/-- Loads the project of a manifest: the manifest first, then the configuration, then the API
definition. The first error counts. -/
def load (files : FileAccess m) (path : String) (o : Overrides) :
    m (Except InputError Project) := do
  match ← openManifest files path with
  | .error e => return .error e
  | .ok file =>
    match configOf file.manifest o.importPath with
    | .error e => return .error e
    | .ok config =>
      return (← readDefinition files (o.definition.getD file.definitionPath)).map fun api =>
        ⟨file, config, api⟩

end Project

end SdkLayout
