import SdkLayout.Api.Types

/-!
# Services and endpoints

An endpoint is called with a request. The request is either a body that is passed on as it is, or
a wrapper that gathers all parameters in one object. A wrapper is a new type, which the SDK has to
declare: the *inlined request* of the endpoint.
-/

namespace SdkLayout

/-- How the method of an endpoint takes its request. -/
inductive RequestShape where
  /-- The body alone, of the given type if it has a name. -/
  | body (type : Option TypeId)
  /-- An object of its own with all parameters. -/
  | wrapper (name bodyKey : Name)
  deriving DecidableEq

/-- The request of a method. -/
structure MethodRequest where
  shape : RequestShape
  parameter : Option Name
  deriving DecidableEq

/-- A part of a file upload. -/
inductive UploadPart where
  | file (key : Name)
  /-- An ordinary field of the body. -/
  | field (name : Name)
  deriving DecidableEq

/-- What is sent as the body of a request. -/
inductive RequestBody where
  | inlined (name : Name) (properties : List Property)
  | reference (type : TypeId)
  | upload (name : Name) (parts : List UploadPart)
  deriving DecidableEq

/-- A response that arrives piece by piece. -/
structure StreamingResponse where
  data : Option TypeId
  terminator : Option String
  deriving DecidableEq

/-- An endpoint of a service. -/
structure Endpoint where
  name : Name
  request : Option MethodRequest
  body : Option RequestBody
  stream : Option StreamingResponse
  docs : Option String
  deriving DecidableEq

namespace Endpoint

/-- Whether the method takes a wrapper. -/
def takesWrapper (e : Endpoint) : Bool :=
  match e.request with
  | some ⟨.wrapper .., _⟩ => true
  | _ => false

/-- Whether a wrapper would have anything in it: an upload of files alone has not. -/
def hasWrapperContents (e : Endpoint) : Bool :=
  match e.body with
  | some (.upload _ parts) =>
    parts.any fun
      | .field _ => true
      | .file _ => false
  | _ => true

/-- Whether the SDK declares a request type for the endpoint. -/
def hasInlinedRequest (e : Endpoint) : Bool :=
  e.takesWrapper && e.hasWrapperContents

/-- Whether the response is streamed. -/
def isStreaming (e : Endpoint) : Bool :=
  e.stream.isSome

end Endpoint

/-- A group of endpoints declared in one place. -/
structure Service where
  path : DeclarationPath
  endpoints : List Endpoint
  deriving DecidableEq

end SdkLayout
