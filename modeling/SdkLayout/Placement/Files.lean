import SdkLayout.Api.Basic
import SdkLayout.Distinct
import SdkLayout.LayoutError
import SdkLayout.Placement.Targets

/-!
# Placing types and requests

Every type and every inlined request goes to exactly one file. First each gets a target, in one
list of assignments; then the assignments are gathered by target. Files are listed in the order of
their targets, and their declarations in the order of their keys, so that equal definitions give
equal plans.

**Two strategies.** Per type, each type goes to the file that its own path names. Service-scoped,
which applies when the definition knows which services use which types, the types of a package
share one file, except that a type used by one service alone goes to the file of that service. A
type never leaves its package for that: packages are compared by directory.
-/

namespace SdkLayout

/-- How types are spread over files. -/
inductive Strategy where
  | perType
  | serviceScoped
  deriving DecidableEq, Repr

namespace Strategy

/-- The name of a strategy. -/
def name : Strategy → String
  | .perType => "per-type"
  | .serviceScoped => "service-scoped"

/-- The strategy that a definition asks for. -/
def ofApi (api : Api) : Strategy :=
  if api.typeUsage.isSome then .serviceScoped else .perType

end Strategy

/-- Something that is written into a file. -/
inductive Placed where
  | type (id : TypeId)
  /-- The inlined request of an endpoint. -/
  | request (service : ServiceId) (endpoint : String)
  deriving DecidableEq, Repr

namespace Placed

/-- The key that orders declarations within a file. -/
def key : Placed → String
  | .type id => id.text
  | .request _ endpoint => endpoint

/-- The order of declarations within a file. -/
def le (a b : Placed) : Bool :=
  stringLe a.key b.key

/-- How a declaration is written in plans. -/
def display : Placed → String
  | .type id => "type " ++ id.text
  | .request service endpoint => "request " ++ endpoint ++ " of " ++ service.text

end Placed

/-- A file with its contents. -/
structure FileOf (α : Type) where
  target : Target
  contents : List α
  deriving DecidableEq, Repr

/-- Gathers assignments by target. Files and their contents are in order. -/
def gatherFiles {α : Type} (le : α → α → Bool) (assignments : List (Target × α)) :
    List (FileOf α) :=
  ((distinct (assignments.map Prod.fst)).mergeSort Target.le).map fun target =>
    ⟨target, ((assignments.filter fun a => decide (a.1 = target)).map Prod.snd).mergeSort le⟩

/-! ### Requests -/

/-- The assignments of the inlined requests of a service. -/
def requestAssignments (rootPackage : String) (id : ServiceId) (s : Service) :
    List (Target × Placed) :=
  (s.endpoints.filter Endpoint.hasInlinedRequest).map fun e =>
    (s.path.target rootPackage, .request id e.name.identifier)

/-- The assignments of all inlined requests. -/
def Api.requests (api : Api) : List (Target × Placed) :=
  api.services.entries.flatMap fun e => requestAssignments api.rootPackageName e.1 e.2

/-! ### Types -/

/-- The target of every type under the strategy per type. -/
def Api.perTypeTargets (api : Api) : List (TypeId × Target) :=
  api.types.entries.map fun e => (e.1, e.2.path.target api.rootPackageName)

/-- What refers to a type or a service that the usage information names. -/
def usageReferrer : String :=
  "service type reference info"

/-- The file for the types of a type's package. -/
def Api.packageTarget (api : Api) (id : TypeId) : Except LayoutError Target :=
  match api.types.get? id with
  | some t => .ok (t.path.targetInPackage api.rootPackageName (sourceFile defaultBasename))
  | none => .error (.unknownType usageReferrer id)

/-- The target of a type that only one service uses. -/
def Api.scopedTarget (api : Api) (serviceTarget : Target) (id : TypeId) :
    Except LayoutError Target :=
  match api.packageTarget id with
  | .error e => .error e
  | .ok own => .ok (if own.directory = serviceTarget.directory then serviceTarget else own)

/-- Gives targets to types, one after the other. -/
def targetsOf (target : TypeId → Except LayoutError Target) :
    List TypeId → Except LayoutError (List (TypeId × Target))
  | [] => .ok []
  | id :: rest =>
    match target id with
    | .error e => .error e
    | .ok t =>
      match targetsOf target rest with
      | .error e => .error e
      | .ok more => .ok ((id, t) :: more)

/-- The targets of the types that only one service uses, service by service. The root service has
no file of its own: its types are left out here. -/
def Api.scopedTargets (api : Api) :
    List (ServiceId × List TypeId) → Except LayoutError (List (TypeId × Target))
  | [] => .ok []
  | (id, types) :: rest =>
    if id = rootServiceId then api.scopedTargets rest
    else match api.services.get? id with
      | none => .error (.unknownService usageReferrer id)
      | some s =>
        match targetsOf (api.scopedTarget (s.path.serviceTarget api.rootPackageName)) types with
        | .error e => .error e
        | .ok own =>
          match api.scopedTargets rest with
          | .error e => .error e
          | .ok more => .ok (own ++ more)

/-- The types that go to the file of their package before any service is asked. -/
def TypeUsage.unscoped (u : TypeUsage) : List TypeId :=
  u.shared ++ (u.onlyByService.get? rootServiceId).getD []

/-- The targets of types under the service-scoped strategy: shared types and those of the root
service first, then the services in turn, then every type. A type may be listed several times; its
first target counts. -/
def Api.serviceScopedTargets (api : Api) (u : TypeUsage) :
    Except LayoutError (List (TypeId × Target)) :=
  match targetsOf api.packageTarget u.unscoped with
  | .error e => .error e
  | .ok unscoped =>
    match api.scopedTargets u.onlyByService.entries with
    | .error e => .error e
    | .ok single =>
      match targetsOf api.packageTarget api.types.keys with
      | .error e => .error e
      | .ok remaining => .ok (unscoped ++ single ++ remaining)

/-- The target of every type, each type once. -/
def Api.typeTargets (api : Api) : Except LayoutError (List (TypeId × Target)) :=
  match api.typeUsage with
  | none => .ok api.perTypeTargets
  | some u =>
    match api.serviceScopedTargets u with
    | .error e => .error e
    | .ok targets => .ok (distinctBy Prod.fst targets)

/-- The files of types and, if asked for, inlined requests. -/
def Api.placeFiles (api : Api) (includeRequests : Bool) :
    Except LayoutError (List (FileOf Placed)) :=
  match api.typeTargets with
  | .error e => .error e
  | .ok targets =>
    .ok (gatherFiles Placed.le
      ((if includeRequests then api.requests else [])
        ++ targets.map fun t => (t.2, .type t.1)))

end SdkLayout
