import SdkLayout.Name

/-!
# Declaration paths

A declaration lives in a package and, unless it belongs to the package as such, in a file of it.
Declarations with the same package path share a directory.

**The path invariant.** A document writes a path twice: as all its parts, and as package path and
file. Both spellings have to agree on the identifiers. They may differ in the casings of these
names, so all three are kept, and the agreement is a field of the type: every path that the
program can hold satisfies it.
-/

namespace SdkLayout

/-- The package and the file that a declaration belongs to. -/
structure DeclarationPath where
  /-- The package path, followed by the file if there is one. -/
  allParts : List Name
  /-- The packages from the outermost to the innermost. -/
  packagePath : List Name
  /-- The file, absent for declarations of the package as such. -/
  file : Option Name
  /-- Both spellings have the same identifiers. -/
  agree : allParts.map Name.identifier = (packagePath ++ file.toList).map Name.identifier
  deriving DecidableEq

namespace DeclarationPath

/-- The path of a file in a package. -/
def new (packagePath : List Name) (file : Option Name) : DeclarationPath where
  allParts := packagePath ++ file.toList
  packagePath
  file
  agree := rfl

@[simp] theorem packagePath_new (p : List Name) (f : Option Name) : (new p f).packagePath = p := rfl

@[simp] theorem file_new (p : List Name) (f : Option Name) : (new p f).file = f := rfl

@[simp] theorem allParts_new (p : List Name) (f : Option Name) :
    (new p f).allParts = p ++ f.toList := rfl

/-- The path of the root package. -/
def root : DeclarationPath :=
  new [] none

/-- The innermost package. -/
def lastPackage? (path : DeclarationPath) : Option Name :=
  path.packagePath.getLast?

/-- Whether the path lies in the root package. -/
def isRootPackage (path : DeclarationPath) : Bool :=
  path.packagePath.isEmpty

/-- The directories of the package, from the outermost to the innermost. -/
def dirs (path : DeclarationPath) : List String :=
  path.packagePath.map Name.segment

/-- The path with its file turned into an innermost package; a path without a file stays. -/
def withFileAsPackage (path : DeclarationPath) : DeclarationPath :=
  match path.file with
  | none => path
  | some file => new (path.packagePath ++ [file]) none

/-- How a path is written in messages: its identifiers with slashes between them. -/
def display (path : DeclarationPath) : String :=
  if path.allParts.isEmpty then "<root>" else Name.joinIdentifiers path.allParts

theorem packagePath_withFileAsPackage (path : DeclarationPath) :
    path.withFileAsPackage.packagePath = path.packagePath ++ path.file.toList := by
  unfold withFileAsPackage
  split
  · next absent => rw [absent, Option.toList_none, List.append_nil]
  · next file there => rw [there, packagePath_new, Option.toList_some]

@[simp] theorem file_withFileAsPackage (path : DeclarationPath) :
    path.withFileAsPackage.file = none := by
  unfold withFileAsPackage
  split
  · assumption
  · rfl

/-- Messages do not tell a file from a package. -/
@[simp] theorem display_withFileAsPackage (path : DeclarationPath) :
    path.withFileAsPackage.display = path.display := by
  unfold withFileAsPackage
  split
  · rfl
  · next file there =>
    -- The parts of the new path have the same identifiers by the path invariant.
    have parts : (path.packagePath ++ [file]).map Name.identifier =
        path.allParts.map Name.identifier := by
      rw [path.agree, there, Option.toList_some]
    have size := congrArg List.isEmpty parts
    rw [List.isEmpty_map, List.isEmpty_map] at size
    rw [display, display, allParts_new, Option.toList_none, List.append_nil, size,
      Name.joinIdentifiers, Name.joinIdentifiers, parts]

/-- The path of the given packages and file, named as in the API definition. -/
def ofIdentifiers (packages : List String) (file : Option String) : DeclarationPath :=
  new (packages.map Name.ofIdentifier) (file.map Name.ofIdentifier)

end DeclarationPath

/-- The import path of the package that a declaration path lies in.

Without a base import path it is the bare directory, and the root package is the empty string. -/
def packageIdentity (importPath : String) (path : DeclarationPath) : String :=
  if path.dirs.isEmpty then importPath
  else if importPath.isEmpty then "/".intercalate path.dirs
  else importPath ++ "/" ++ "/".intercalate path.dirs

end SdkLayout
