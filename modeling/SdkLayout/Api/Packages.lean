import SdkLayout.Api.Id
import SdkLayout.DeclarationPath

/-!
# The package tree

The root package and the subpackages form a tree: each lists its children by identifier. A package
may own a service, and knows whether anything below it has endpoints.
-/

namespace SdkLayout

/-- Whether documentation is there and says something. -/
def isDocumented (docs : Option String) : Bool :=
  docs.any fun d => !d.isEmpty

/-- The root package. -/
structure RootPackage where
  path : DeclarationPath
  service : Option ServiceId
  children : List SubpackageId
  hasEndpointsInTree : Bool
  docs : Option String
  deriving DecidableEq

/-- Whether the root package is documented. -/
def RootPackage.hasDocs (p : RootPackage) : Bool :=
  isDocumented p.docs

/-- A package below the root. -/
structure Subpackage where
  name : Name
  path : DeclarationPath
  service : Option ServiceId
  children : List SubpackageId
  hasEndpointsInTree : Bool
  docs : Option String
  deriving DecidableEq

namespace Subpackage

/-- Whether the subpackage is documented. -/
def hasDocs (p : Subpackage) : Bool :=
  isDocumented p.docs

/-- Whether the subpackage is a file and also the parent of others. Its client would then share a
package with the directory of its children. -/
def isNestedRoot (p : Subpackage) : Bool :=
  !p.children.isEmpty && p.path.file.isSome

end Subpackage

end SdkLayout
