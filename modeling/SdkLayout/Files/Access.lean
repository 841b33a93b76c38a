/-!
# Access to files

What a run may do with files. The operations belong to a monad of the caller's choice, so that the
same run works on a disk and on a tree of files in memory.
-/

namespace SdkLayout

/-- Operations on text files. Those that change something say whether they succeeded. -/
structure FileAccess (m : Type → Type) where
  /-- The contents of a file, if it can be read. -/
  read : String → m (Option String)
  /-- Writes a file, in place of the one that is there. -/
  write : (path contents : String) → m Bool
  /-- Makes a directory and those around it, as far as they are missing. -/
  makeDirectory : String → m Bool

end SdkLayout
