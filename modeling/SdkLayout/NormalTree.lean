import SdkLayout.Api.Basic
import SdkLayout.LayoutError

/-!
# The normal form of the package tree

A subpackage that is both a file and a parent (`Subpackage.isNestedRoot`) would put its client into
the directory of its children. It is *demoted*: its file becomes a package of its own, so that
`config` beside `config/` becomes `config/config`. A service that it owns moves along.

Nothing else changes, and the path that a subpackage was declared at is kept beside the new one.
-/

namespace SdkLayout

/-- A subpackage in normal form. -/
structure NormalSubpackage where
  subpackage : Subpackage
  /-- The path that the subpackage was declared at. -/
  declaredPath : DeclarationPath
  demoted : Bool
  deriving DecidableEq

/-- The path of a subpackage in normal form. -/
def NormalSubpackage.path (p : NormalSubpackage) : DeclarationPath :=
  p.subpackage.path

/-- Demotes a subpackage if it is a nested root. -/
def Subpackage.normalize (p : Subpackage) : NormalSubpackage where
  subpackage := if p.isNestedRoot then { p with path := p.path.withFileAsPackage } else p
  declaredPath := p.path
  demoted := p.isNestedRoot

/-- Normalization keeps the service of a subpackage. -/
@[simp] theorem Subpackage.service_normalize (p : Subpackage) :
    p.normalize.subpackage.service = p.service := by
  unfold normalize
  split <;> rfl

/-- Normalization keeps the children of a subpackage. -/
@[simp] theorem Subpackage.children_normalize (p : Subpackage) :
    p.normalize.subpackage.children = p.children := by
  unfold normalize
  split <;> rfl

@[simp] theorem Subpackage.declaredPath_normalize (p : Subpackage) :
    p.normalize.declaredPath = p.path := rfl

/-- The package tree in normal form. -/
structure NormalTree where
  subpackages : Table SubpackageId NormalSubpackage
  /-- The new paths of the services that demoted subpackages own. -/
  servicePaths : Table ServiceId DeclarationPath
  deriving DecidableEq

namespace NormalTree

/-- The new path of the service that a subpackage owns, if the subpackage is demoted. -/
def demotedService (api : Api) (id : SubpackageId) (p : Subpackage) :
    Except LayoutError (Option (ServiceId × DeclarationPath)) :=
  match p.isNestedRoot, p.service with
  | true, some service =>
    match api.services.get? service with
    | some s => .ok (some (service, s.path.withFileAsPackage))
    | none => .error (.unknownService ("subpackage '" ++ id.text ++ "'") service)
  | _, _ => .ok none

/-- The new paths of the services that demoted subpackages own. -/
def demotedServices (api : Api) :
    List (SubpackageId × Subpackage) → Except LayoutError (List (ServiceId × DeclarationPath))
  | [] => .ok []
  | (id, p) :: rest =>
    match demotedService api id p with
    | .error e => .error e
    | .ok own =>
      match demotedServices api rest with
      | .error e => .error e
      | .ok more => .ok (own.toList ++ more)

/-- The package tree of an API in normal form. Fails if a demoted subpackage owns a service that
is missing. -/
def ofApi (api : Api) : Except LayoutError NormalTree :=
  match demotedServices api api.subpackages.entries with
  | .error e => .error e
  | .ok services =>
    .ok ⟨api.subpackages.mapEntries fun _ p => p.normalize, .ofList services⟩

/-- The path of a service in normal form. -/
def servicePath? (tree : NormalTree) (api : Api) (id : ServiceId) : Option DeclarationPath :=
  match tree.servicePaths.get? id with
  | some path => some path
  | none => (api.services.get? id).map Service.path

/-- The demoted subpackages. -/
def demoted (tree : NormalTree) : List (SubpackageId × NormalSubpackage) :=
  tree.subpackages.entries.filter fun e => e.2.demoted

/-- The API with the paths of the tree. -/
def apply (tree : NormalTree) (api : Api) : Api :=
  { api with
    subpackages := api.subpackages.mapEntries fun id p =>
      match tree.subpackages.get? id with
      | some n => { p with path := n.path }
      | none => p
    services := api.services.mapEntries fun id s =>
      match tree.servicePaths.get? id with
      | some path => { s with path := path }
      | none => s }

end NormalTree

end SdkLayout
