import SdkLayout.Api.Basic
import SdkLayout.Graph.Digraph
import SdkLayout.LayoutError

/-!
# References between types, imports between packages

The *reference graph* knows the package of every type and which type refers to which. Types of
different packages that refer to each other make one package import the other; these imports are
the edges of the *import graph*.

Import cycles are the components of the import graph with more than one package. They are listed in
ascending order, each in ascending order.
-/

namespace SdkLayout

/-- The packages of types and the references between them. -/
structure ReferenceGraph where
  importPath : String
  /-- The package of every type. -/
  packages : Table TypeId String
  /-- Who refers to whom, in the order of the document, without references to oneself. -/
  references : List (TypeId × TypeId)

namespace ReferenceGraph

/-- Collects the references of types. A reference to a type that is missing ends the collection. -/
def collect (known : TypeId → Bool) (id : TypeId) :
    List TypeId → Except LayoutError (List (TypeId × TypeId))
  | [] => .ok []
  | referenced :: rest =>
    if known referenced then
      match collect known id rest with
      | .ok more => .ok (if referenced = id then more else (id, referenced) :: more)
      | .error e => .error e
    else .error (.unknownType ("type '" ++ id.text ++ "'") referenced)

/-- Collects the references of all entries of the types table. -/
def collectAll (known : TypeId → Bool) :
    List (TypeId × TypeDeclaration) → Except LayoutError (List (TypeId × TypeId))
  | [] => .ok []
  | (id, t) :: rest =>
    match collect known id t.references.toList with
    | .error e => .error e
    | .ok own =>
      match collectAll known rest with
      | .error e => .error e
      | .ok more => .ok (own ++ more)

/-- The reference graph of an API. -/
def build (api : Api) (importPath : String) : Except LayoutError ReferenceGraph :=
  match collectAll api.types.contains api.types.entries with
  | .error e => .error e
  | .ok references =>
    .ok
      { importPath
        packages := api.types.mapEntries fun _ t => packageIdentity importPath t.path
        references }

/-- The package of a type. -/
def packageOf (g : ReferenceGraph) (id : TypeId) : Option String :=
  g.packages.get? id

/-- The references between types of different packages. -/
def crossReferences (g : ReferenceGraph) : List (TypeId × TypeId) :=
  g.references.filter fun r => g.packageOf r.1 != g.packageOf r.2

/-- Without an import path no package can import another. Reports the first reference that would
need it. -/
def checkImportPath (g : ReferenceGraph) : Except LayoutError Unit :=
  if g.importPath.isEmpty then
    match g.crossReferences with
    | [] => .ok ()
    | (type, referenced) :: _ => .error (.missingImportPath type referenced)
  else .ok ()

/-- The import that a reference causes. -/
def importOf? (g : ReferenceGraph) (r : TypeId × TypeId) : Option (String × String) :=
  match g.packageOf r.1, g.packageOf r.2 with
  | some source, some target => some (source, target)
  | _, _ => none

/-- The graph of packages and the imports between them. -/
def importGraph (g : ReferenceGraph) : Digraph String where
  nodes := sortedStrings g.packages.values
  edges := distinct (g.crossReferences.filterMap g.importOf?)

end ReferenceGraph

namespace Digraph

/-- Whether one package imports another. -/
def imports (g : Digraph String) (source target : String) : Bool :=
  g.edges.contains (source, target)

/-- The groups of packages that import each other in a circle. -/
def cycles (g : Digraph String) : List (List String) :=
  g.components.filter fun c => decide (1 < c.length)

end Digraph

end SdkLayout
