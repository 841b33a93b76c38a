import SdkLayout.Api.Basic

/-!
# Building definitions

Small definitions are built step by step from bare identifiers: names are derived from the
identifiers, and everything that a step does not mention is left empty. Each step returns the
extended definition; a repeated identifier replaces the entry and keeps its place.
-/

namespace SdkLayout

/-! ### Endpoints -/

namespace Endpoint

/-- An endpoint whose request is a wrapper. -/
def withWrapper (name : String) : Endpoint where
  name := .ofIdentifier name
  request := some
    { shape := .wrapper (.ofIdentifier (name ++ "Request")) (.ofIdentifier "body")
      parameter := some (.ofIdentifier "request") }
  body := none
  stream := none
  docs := none

/-- An endpoint that passes a body of a named type on as it is. -/
def withBody (name type : String) : Endpoint where
  name := .ofIdentifier name
  request := some
    { shape := .body (some ⟨type⟩)
      parameter := some (.ofIdentifier "request") }
  body := some (.reference ⟨type⟩)
  stream := none
  docs := none

/-- An endpoint that uploads a file, perhaps along with an ordinary field. -/
def withUpload (name : String) (hasField : Bool) : Endpoint :=
  { withWrapper name with
    body := some (.upload (.ofIdentifier (name ++ "Request"))
      (.file (.ofIdentifier "file")
        :: if hasField then [.field (.ofIdentifier "description")] else [])) }

/-- An endpoint without a request that streams its response. -/
def withStream (name : String) : Endpoint where
  name := .ofIdentifier name
  request := none
  body := none
  stream := some ⟨none, none⟩
  docs := none

end Endpoint

/-! ### Steps -/

namespace Api

/-- Adds a type declaration under its own identifier. -/
def addType (t : TypeDeclaration) (api : Api) : Api :=
  { api with types := api.types.insert t.id t }

/-- Adds an object type that refers to the given types. -/
def addObject (id : String) (path : DeclarationPath) (references : List String) (api : Api) :
    Api :=
  api.addType
    { id := ⟨id⟩
      path
      name := .ofIdentifier id
      shape := .object [] []
      references := .ofList (references.map Id.mk)
      docs := none }

/-- Adds an error with status 400. -/
def addError (id : String) (path : DeclarationPath) (body : Option String) (api : Api) : Api :=
  { api with
    errors := api.errors.insert ⟨id⟩
      { id := ⟨id⟩
        path
        name := .ofIdentifier id
        statusCode := 400
        discriminant := none
        body := body.map Id.mk } }

/-- Adds a service. -/
def addService (id : String) (path : DeclarationPath) (endpoints : List Endpoint) (api : Api) :
    Api :=
  { api with services := api.services.insert ⟨id⟩ ⟨path, endpoints⟩ }

/-- Adds a subpackage, named for the last part of its path. It has endpoints in its tree if it
owns a service. -/
def addSubpackage (id : String) (path : DeclarationPath) (service : Option String)
    (children : List String) (api : Api) : Api :=
  { api with
    subpackages := api.subpackages.insert ⟨id⟩
      { name := path.allParts.getLast?.getD (.ofIdentifier id)
        path
        service := service.map Id.mk
        children := children.map Id.mk
        hasEndpointsInTree := service.isSome
        docs := none } }

/-- Notes that a subpackage has endpoints somewhere in its tree. -/
def markEndpointsInTree (id : String) (api : Api) : Api :=
  { api with
    subpackages := api.subpackages.modify ⟨id⟩ fun p => { p with hasEndpointsInTree := true } }

/-- Documents a subpackage. -/
def documentSubpackage (id docs : String) (api : Api) : Api :=
  { api with subpackages := api.subpackages.modify ⟨id⟩ fun p => { p with docs := some docs } }

/-- Sets the root package. -/
def setRootPackage (service : Option String) (children : List String) (api : Api) : Api :=
  { api with
    rootPackage := some
      { path := .root
        service := service.map Id.mk
        children := children.map Id.mk
        hasEndpointsInTree := service.isSome || !children.isEmpty
        docs := none } }

/-- Documents the root package, if there is one. -/
def documentRoot (docs : String) (api : Api) : Api :=
  { api with rootPackage := api.rootPackage.map fun p => { p with docs := some docs } }

/-- Adds a variable. -/
def addVariable (name : String) (api : Api) : Api :=
  { api with globals := api.globals ++ [⟨name, .ofIdentifier name⟩] }

/-- Sets the environments. The first one is the default. -/
def setEnvironments (ids : List String) (api : Api) : Api :=
  { api with
    environments := some
      { default := ids.head?.map Id.mk
        all := ids.map fun id => ⟨⟨id⟩, .ofIdentifier id, none⟩ } }

/-- Sets which services use which types. -/
def setTypeUsage (shared : List String) (onlyByService : List (String × List String)) (api : Api) :
    Api :=
  { api with
    typeUsage := some
      { onlyByService := .ofList (onlyByService.map fun e => (⟨e.1⟩, e.2.map Id.mk))
        shared := shared.map Id.mk } }

end Api

end SdkLayout
