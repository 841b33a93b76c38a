import SdkLayout.DeclarationPath
import SdkLayout.Target

/-!
# Where a path leads

The targets that a declaration path leads to: the file it names, a fixed file of its package, the
file of a service, the file of a client. In all of them the packages of the path become
directories.
-/

namespace SdkLayout

/-- The base name of files for declarations without a file. -/
def defaultBasename : String :=
  "types"

/-- The directory and package of a client without a file. -/
def defaultClientDir : String :=
  "client"

/-- The file of a client. -/
def clientFilename : String :=
  "client.go"

/-- A source file with the given base name. -/
def sourceFile (basename : String) : String :=
  basename ++ ".go"

/-- A base name is known from its source file. -/
theorem sourceFile_inj {a b : String} : sourceFile a = sourceFile b ↔ a = b := by
  refine ⟨fun same => ?_, congrArg sourceFile⟩
  have texts := congrArg String.toList same
  rw [sourceFile, sourceFile, String.toList_append, String.toList_append] at texts
  exact String.toList_inj.1 (List.append_cancel_right texts)

namespace DeclarationPath

/-- The file that a path names. -/
def target (rootPackage : String) (path : DeclarationPath) : Target :=
  .inDirs path.dirs (sourceFile ((path.file.map Name.basename).getD defaultBasename)) rootPackage

/-- A fixed file in the package of a path. -/
def targetInPackage (rootPackage : String) (path : DeclarationPath) (filename : String) : Target :=
  .inDirs path.dirs filename rootPackage

/-- The file for the types of a service. It is named for the file of the service, or for its
innermost package. -/
def serviceTarget (rootPackage : String) (path : DeclarationPath) : Target :=
  .inDirs path.dirs
    (sourceFile (((path.file.or path.lastPackage?).map Name.basename).getD defaultBasename))
    rootPackage

/-- The directories of a client: it has a package of its own. -/
def clientDirs (path : DeclarationPath) : List String :=
  path.dirs ++ [(path.file.map Name.segment).getD defaultClientDir]

/-- The file of a client. -/
def clientTarget (path : DeclarationPath) : Target :=
  .inDirs path.clientDirs clientFilename defaultClientDir

end DeclarationPath

end SdkLayout
