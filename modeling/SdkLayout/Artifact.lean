import SdkLayout.Api.Basic
import SdkLayout.Config
import SdkLayout.Registry
import SdkLayout.Target

/-!
# Artifacts

Artifacts are the files that exist once per SDK whatever the API describes: helpers, tests, the
runtime in the `core` package.

**Singletons.** Four of them, called singletons, share their package with generated declarations
and must not collide with one. A singleton of the root package moves to `core` if one of the names
it declares is taken; else it takes a file name with an underscore in front if a generated package
is named like its file; else it has its default place. References to helpers in `core` have to be
qualified, so a placement says whether it is there.
-/

namespace SdkLayout

/-- The package of internal helpers. -/
def corePackage : String :=
  "core"

/-- The package of the root client. -/
def clientPackage : String :=
  "client"

/-- The pointer constructors of the SDK, one per primitive. -/
def pointerHelpers : List String :=
  ["Bool", "Byte", "Complex64", "Complex128", "Float32", "Float64", "Int", "Int8", "Int16",
    "Int32", "Int64", "Rune", "String", "Uint", "Uint8", "Uint16", "Uint32", "Uint64", "Uintptr",
    "Time"]

/-- The kinds of artifacts. -/
inductive ArtifactKind where
  | clientOptionDefinition
  | clientOptions
  | clientTest
  | core
  | coreTest
  | environments
  | optional
  | optionalHelpers
  | optionalTest
  | pointerHelpers
  | stream
  | stringer
  deriving DecidableEq, Repr

namespace ArtifactKind

/-- The name of a kind. -/
def name : ArtifactKind → String
  | .clientOptionDefinition => "client-option-definition"
  | .clientOptions => "client-options"
  | .clientTest => "client-test"
  | .core => "core"
  | .coreTest => "core-test"
  | .environments => "environments"
  | .optional => "optional"
  | .optionalHelpers => "optional-helpers"
  | .optionalTest => "optional-test"
  | .pointerHelpers => "pointer-helpers"
  | .stream => "stream"
  | .stringer => "stringer"

/-- Whether the place of an artifact depends on what the API declares. -/
def isSingleton : ArtifactKind → Bool
  | .clientOptions | .environments | .optionalHelpers | .pointerHelpers => true
  | _ => false

end ArtifactKind

/-- An artifact at its place. -/
structure Artifact where
  kind : ArtifactKind
  target : Target
  /-- Whether the artifact is in the core package. -/
  useCore : Bool
  deriving DecidableEq, Repr

namespace Artifact

/-- An artifact in the core package. -/
def inCore (kind : ArtifactKind) (filename : String) : Artifact :=
  ⟨kind, ⟨corePackage ++ "/" ++ filename, corePackage⟩, true⟩

/-- An artifact in the root package. -/
def inRoot (kind : ArtifactKind) (filename rootPackage : String) : Artifact :=
  ⟨kind, ⟨filename, rootPackage⟩, false⟩

/-- An artifact in the package of the root client. -/
def inClient (kind : ArtifactKind) (filename : String) : Artifact :=
  ⟨kind, ⟨clientPackage ++ "/" ++ filename, clientPackage⟩, false⟩

/-- Whether a collision moved a singleton off its default place. -/
def isFallback (a : Artifact) : Bool :=
  a.kind.isSingleton && (a.useCore || a.target.filename.toList.head? == some '_')

end Artifact

/-! ### Singletons of the root package -/

/-- What a singleton of the root package declares and where it goes. -/
structure Singleton where
  kind : ArtifactKind
  /-- The exported names that it declares. -/
  names : List String
  /-- The file that it is in by default, and in the core package. -/
  filename : String
  coreFilename : String

/-- The container of the environments. -/
def environmentsSingleton : Singleton :=
  ⟨.environments, ["Environments"], "environments.go", "environments.go"⟩

/-- The constructors of optional and null values. The core package has an `optional.go` of its own,
so they take another name there. -/
def optionalSingleton : Singleton :=
  ⟨.optionalHelpers, ["Optional", "Null"], "optional.go", "_optional.go"⟩

/-- The constructors of pointers. -/
def pointerSingleton : Singleton :=
  ⟨.pointerHelpers, SdkLayout.pointerHelpers, "pointer.go", "pointer.go"⟩

/-- Places a singleton of the root package. `shadowed` says whether something is named like its
default file. -/
def Singleton.place (s : Singleton) (rootPackage : String) (registry : Registry)
    (shadowed : Bool) : Artifact :=
  if s.names.any registry.hasName then .inCore s.kind s.coreFilename
  else if shadowed then .inRoot s.kind ("_" ++ s.filename) rootPackage
  else .inRoot s.kind s.filename rootPackage

/-- Places the container of the environments. -/
def placeEnvironments (rootPackage : String) (registry : Registry) : Artifact :=
  environmentsSingleton.place rootPackage registry (registry.hasPackage "environments")

/-- Places the constructors of optional values. -/
def placeOptionalHelpers (rootPackage : String) (registry : Registry) : Artifact :=
  optionalSingleton.place rootPackage registry (registry.hasPackage "optional")

/-- Places the constructors of pointers. They give way to a declaration named `Pointer`. -/
def placePointerHelpers (rootPackage : String) (registry : Registry) : Artifact :=
  pointerSingleton.place rootPackage registry (registry.hasName "Pointer")

/-! ### The other artifacts -/

/-- Places the client options: in core if a service produces a package `client`. -/
def placeClientOptions (registry : Registry) : Artifact :=
  if registry.hasPackage clientPackage then .inCore .clientOptions "client_options.go"
  else .inClient .clientOptions "options.go"

/-- Places the type that the client options build on. -/
def placeClientOptionDefinition : Artifact :=
  .inCore .clientOptionDefinition "client_option.go"

/-- The artifacts of a client. -/
def clientArtifacts (config : Config) (api : Api) (registry : Registry) : List Artifact :=
  let rootPackage := api.rootPackageName
  [placeClientOptionDefinition]
    ++ (if api.environments.isSome then [placeEnvironments rootPackage registry] else [])
    ++ [placeClientOptions registry]
    ++ (if config.explicitNull then
          [placeOptionalHelpers rootPackage registry, .inCore .optional "optional.go",
            .inCore .optionalTest "optional_test.go"]
        else [])
    ++ [.inClient .clientTest "client_test.go", .inCore .core "core.go",
        .inCore .coreTest "core_test.go", placePointerHelpers rootPackage registry]
    ++ (if api.hasStreaming then [.inCore .stream "stream.go"] else [])

/-- The order of artifacts. -/
def Artifact.le (a b : Artifact) : Bool :=
  Target.le a.target b.target

/-- All artifacts of a run, in the order of their targets. -/
def placeArtifacts (config : Config) (api : Api) (registry : Registry) : List Artifact :=
  (.inCore .stringer "stringer.go"
    :: if config.mode.placesClient then clientArtifacts config api registry else []).mergeSort
      Artifact.le

/-! ### The module file -/

/-- The file that makes the SDK a module. -/
structure ModuleFile where
  filename : String
  path : String
  version : Option String
  /-- Whether the SDK needs a version of the language that has generics. -/
  requiresGenerics : Bool
  deriving DecidableEq, Repr

/-- Places the module file, if a module is configured. -/
def placeModule (config : Config) (api : Api) : Option ModuleFile :=
  config.module.map fun m =>
    ⟨"go.mod", m.path, m.version, config.explicitNull || api.hasStreaming⟩

end SdkLayout
