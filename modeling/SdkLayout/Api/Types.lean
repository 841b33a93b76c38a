import SdkLayout.Api.Id
import SdkLayout.DeclarationPath
import SdkLayout.Table

/-!
# Type and error declarations

A type declaration says where the type lives, what shape it has and which types it refers to. Only
the references matter for the layout of packages; shapes are carried along.
-/

namespace SdkLayout

/-- A property of an object. -/
structure Property where
  name : Name
  docs : Option String
  deriving DecidableEq

/-- A variant of a union, with the type it carries if any. -/
structure Variant where
  discriminant : Name
  type : Option TypeId
  deriving DecidableEq

/-- The shape of a type. -/
inductive TypeShape where
  | object (bases : List TypeId) (properties : List Property)
  /-- A union whose variants are told apart by the discriminant. -/
  | union (discriminant : Name) (variants : List Variant)
  /-- An alias, with the type it names unless it stands for a primitive or a container. -/
  | alias (target : Option TypeId)
  | enum (values : List Name)
  deriving DecidableEq

/-- The name of the kind of a shape. -/
def TypeShape.kind : TypeShape → String
  | .object .. => "object"
  | .union .. => "union"
  | .alias .. => "alias"
  | .enum .. => "enum"

/-- A named type. -/
structure TypeDeclaration where
  id : TypeId
  path : DeclarationPath
  name : Name
  shape : TypeShape
  /-- The types that the declaration refers to. -/
  references : OrderedSet TypeId
  docs : Option String
  deriving DecidableEq

/-- An error that endpoints may answer with. -/
structure ErrorDeclaration where
  id : ErrorId
  path : DeclarationPath
  name : Name
  statusCode : UInt16
  /-- What tells the error apart where errors are told apart by a property. -/
  discriminant : Option Name
  body : Option TypeId
  deriving DecidableEq

end SdkLayout
