import SdkLayout.Api.Id

/-!
# Layout errors

The conditions under which a layout cannot be planned at all.
-/

namespace SdkLayout

/-- A condition that ends planning. -/
inductive LayoutError where
  /-- One package would have to import another, but there is no import path to do so. -/
  | missingImportPath (type referenced : TypeId)
  | unknownType (referrer : String) (type : TypeId)
  | unknownService (referrer : String) (service : ServiceId)
  | unknownSubpackage (referrer : String) (subpackage : SubpackageId)
  /-- A cycle of packages that no relocation breaks. -/
  | unresolvedCycle (packages : List String)
  deriving DecidableEq, Repr

/-- The wording of a layout error. -/
def LayoutError.message : LayoutError → String
  | .missingImportPath type referenced =>
    "package import path required: type '" ++ type.text ++ "' references '" ++ referenced.text
      ++ "' in another package"
  | .unknownType referrer type =>
    referrer ++ " references type '" ++ type.text ++ "' which doesn't exist"
  | .unknownService referrer service =>
    referrer ++ " references service '" ++ service.text ++ "' which doesn't exist"
  | .unknownSubpackage referrer subpackage =>
    referrer ++ " references subpackage '" ++ subpackage.text ++ "' which doesn't exist"
  | .unresolvedCycle packages =>
    "unresolvable import cycle between packages: " ++ " -> ".intercalate packages

end SdkLayout
