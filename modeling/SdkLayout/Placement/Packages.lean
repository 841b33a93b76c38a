import SdkLayout.NormalTree
import SdkLayout.Placement.Files

/-!
# Placing errors, documentation and clients

Each package has at most one file for its errors, one for its documentation, and a client. Errors
and documentation stay at the declared paths; clients follow the package tree in normal form.

**Clients.** The root package always has a client. A subpackage has one if it owns a service or has
a child with endpoints in its tree. The client of a subpackage lives where its service lives, and
lists the children with endpoints.
-/

namespace SdkLayout

/-- The file for the errors of a package. -/
def errorsFilename : String :=
  "errors.go"

/-- The file for the documentation of a package. -/
def docsFilename : String :=
  "doc.go"

/-- The files of errors, one per package. -/
def Api.placeErrors (api : Api) : List (FileOf ErrorId) :=
  gatherFiles Id.le (api.errors.entries.map fun e =>
    (e.2.path.targetInPackage api.rootPackageName errorsFilename, e.1))

/-! ### Documentation -/

/-- A file with the documentation of a package. -/
structure DocFile where
  target : Target
  /-- The package, absent for the root. -/
  subpackage : Option SubpackageId
  deriving DecidableEq, Repr

/-- The files with documentation: that of the root package first, then those of the subpackages. -/
def Api.placeDocs (api : Api) : List DocFile :=
  ((api.rootPackage.toList.filter RootPackage.hasDocs).map fun p =>
      ⟨p.path.targetInPackage api.rootPackageName docsFilename, none⟩)
    ++ (api.subpackages.entries.filter fun e => e.2.hasDocs).map fun e =>
      ⟨e.2.path.targetInPackage api.rootPackageName docsFilename, some e.1⟩

/-! ### Clients -/

/-- A client and the clients it gives access to. -/
structure Client where
  target : Target
  /-- The package, absent for the root. -/
  subpackage : Option SubpackageId
  service : Option ServiceId
  /-- The path that the inlined requests of the client belong to. -/
  declaredPath : DeclarationPath
  children : List SubpackageId
  deriving DecidableEq

/-- The children of a package that have endpoints in their tree. -/
def Api.childrenWithEndpoints (api : Api) (referrer : String) :
    List SubpackageId → Except LayoutError (List SubpackageId)
  | [] => .ok []
  | child :: rest =>
    match api.subpackages.get? child with
    | none => .error (.unknownSubpackage referrer child)
    | some p =>
      match api.childrenWithEndpoints referrer rest with
      | .error e => .error e
      | .ok more => .ok (if p.hasEndpointsInTree then child :: more else more)

/-- The client of the root package. -/
def Api.rootClient (api : Api) (root : RootPackage) : Except LayoutError Client :=
  match api.childrenWithEndpoints "root package" root.children with
  | .error e => .error e
  | .ok children =>
    .ok
      { target := root.path.clientTarget
        subpackage := none
        service := root.service
        declaredPath := root.path
        children }

/-- The path that places the client of a subpackage: that of its service, else its own. -/
def Api.clientPath (api : Api) (tree : NormalTree) (referrer : String) (p : NormalSubpackage) :
    Except LayoutError DeclarationPath :=
  match p.subpackage.service with
  | none => .ok p.path
  | some service =>
    match tree.servicePath? api service with
    | some path => .ok path
    | none => .error (.unknownService referrer service)

/-- The client of a subpackage, if it has one. -/
def Api.subpackageClient (api : Api) (tree : NormalTree) (id : SubpackageId)
    (p : NormalSubpackage) : Except LayoutError (Option Client) :=
  let referrer := "subpackage '" ++ id.text ++ "'"
  match api.childrenWithEndpoints referrer p.subpackage.children with
  | .error e => .error e
  | .ok children =>
    if p.subpackage.service.isNone && children.isEmpty then .ok none
    else match api.clientPath tree referrer p with
      | .error e => .error e
      | .ok path =>
        .ok (some
          { target := path.clientTarget
            subpackage := some id
            service := p.subpackage.service
            declaredPath := p.declaredPath
            children })

/-- The clients of subpackages. -/
def Api.subpackageClients (api : Api) (tree : NormalTree) :
    List (SubpackageId × NormalSubpackage) → Except LayoutError (List Client)
  | [] => .ok []
  | (id, p) :: rest =>
    match api.subpackageClient tree id p with
    | .error e => .error e
    | .ok own =>
      match api.subpackageClients tree rest with
      | .error e => .error e
      | .ok more => .ok (own.toList ++ more)

/-- The clients of the root package, if there is one. -/
def Api.rootClients (api : Api) : Except LayoutError (List Client) :=
  match api.rootPackage with
  | none => .ok []
  | some root =>
    match api.rootClient root with
    | .error e => .error e
    | .ok c => .ok [c]

/-- All clients: that of the root package first, then those of the subpackages in order. -/
def Api.placeClients (api : Api) (tree : NormalTree) : Except LayoutError (List Client) :=
  match api.rootClients with
  | .error e => .error e
  | .ok root =>
    match api.subpackageClients tree tree.subpackages.entries with
    | .error e => .error e
    | .ok clients => .ok (root ++ clients)

end SdkLayout
