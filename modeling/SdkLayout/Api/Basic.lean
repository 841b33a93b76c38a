import SdkLayout.Api.Http
import SdkLayout.Api.Packages

/-!
# API definitions

An `Api` is a complete description of an API: its types, errors, services and packages, each in a
table that keeps the order of the document. It is read once and never changed in place; whatever
corrects it makes a new one.
-/

namespace SdkLayout

/-- A top-level variable. -/
structure Variable where
  id : String
  name : Name
  deriving DecidableEq

/-- An environment the API is served in. -/
structure Environment where
  id : EnvironmentId
  name : Name
  url : Option String
  deriving DecidableEq

/-- The environments of an API. -/
structure Environments where
  default : Option EnvironmentId
  all : List Environment
  deriving DecidableEq

/-- Which services use which types, as far as the producer of the definition knows. -/
structure TypeUsage where
  /-- The types that only one service uses, by service. -/
  onlyByService : Table ServiceId (List TypeId)
  /-- The types that several services use. -/
  shared : List TypeId
  deriving DecidableEq

/-- A complete description of an API. -/
structure Api where
  name : Name
  types : Table TypeId TypeDeclaration
  errors : Table ErrorId ErrorDeclaration
  services : Table ServiceId Service
  subpackages : Table SubpackageId Subpackage
  rootPackage : Option RootPackage
  /-- The top-level variables. -/
  globals : List Variable
  typeUsage : Option TypeUsage
  environments : Option Environments
  /-- Whether the SDK is said to have streaming endpoints. -/
  declaresStreaming : Bool
  deriving DecidableEq

/-- The identifier of the unnamed service of the root package. -/
def rootServiceId : ServiceId :=
  ⟨"service_"⟩

namespace Api

/-- The API of a name that describes nothing yet. -/
def empty (name : Name) : Api where
  name
  types := .empty
  errors := .empty
  services := .empty
  subpackages := .empty
  rootPackage := none
  globals := []
  typeUsage := none
  environments := none
  declaresStreaming := false

/-- The package of declarations at the top level. -/
def rootPackageName (api : Api) : String :=
  api.name.segment

/-- Whether any endpoint streams its response. -/
def hasStreaming (api : Api) : Bool :=
  api.declaresStreaming || api.services.values.any fun s => s.endpoints.any Endpoint.isStreaming

end Api

end SdkLayout
