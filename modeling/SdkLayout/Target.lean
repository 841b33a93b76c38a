import SdkLayout.Name

/-!
# Targets

A target is an output file and the package that the file declares. File names use slashes on every
platform. Targets are ordered by file name and then by package, the order in which a plan lists
them.
-/

namespace SdkLayout

/-- An output file with the package it declares. -/
structure Target where
  filename : String
  package : String
  deriving DecidableEq, Repr

namespace Target

/-- Places a file under directories. At the top level it belongs to the root package, elsewhere to
the package of the innermost directory. -/
def inDirs (dirs : List String) (basename rootPackage : String) : Target :=
  match dirs.getLast? with
  | none => ⟨basename, rootPackage⟩
  | some last => ⟨"/".intercalate dirs ++ "/" ++ basename, last⟩

/-- What stands before the last slash, nothing if there is no slash. -/
def beforeLastSlash (cs : List Char) : List Char :=
  ((cs.reverse.dropWhile (· != '/')).drop 1).reverse

/-- The directory of the file, empty at the top level. -/
def directory (target : Target) : String :=
  String.ofList (beforeLastSlash target.filename.toList)

/-- The order of targets: by file name, then by package. -/
def le (a b : Target) : Bool :=
  decide (a.filename < b.filename) || (a.filename == b.filename && decide (a.package ≤ b.package))

/-- How a target is written in plans and messages. -/
def display (target : Target) : String :=
  target.filename ++ " (package " ++ target.package ++ ")"

end Target

end SdkLayout
