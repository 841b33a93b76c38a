import SdkLayout.Files.Access
import SdkLayout.Files.Path
import SdkLayout.Table

/-!
# Trees of files

A tree of text files in memory, seen from its topmost directory. Relative paths lead into it;
absolute paths and paths that leave it lead nowhere. A path is walked segment by segment, and every
segment but the last has to lead to a directory.
-/

namespace SdkLayout

/-- A place in a tree: the names that lead to it. -/
abbrev Place := List String

/-- A tree of text files. -/
structure FileTree where
  files : Table Place String
  /-- Directories that are there whether or not they hold files. -/
  directories : List Place
  deriving DecidableEq

namespace FileTree

/-- The tree that holds nothing. -/
def empty : FileTree :=
  ⟨.empty, []⟩

/-- Whether a place is a directory: the topmost one, one that was made, or one around another
place. -/
def isDirectory (t : FileTree) (p : Place) : Bool :=
  p.isEmpty || t.directories.any p.isPrefixOf
    || t.files.keys.any fun q => p.isPrefixOf q && p != q

/-- Where a path leads from a place on, segment by segment. -/
def walk (t : FileTree) : Place → List String → Option Place
  | p, [] => some p
  | p, segment :: rest =>
    if !t.isDirectory p then none
    else if Path.isTrivial segment then walk t p rest
    else if segment = ".." then if p.isEmpty then none else walk t p.dropLast rest
    else walk t (p ++ [segment]) rest

/-- Where a path leads, whether or not there is anything yet. -/
def resolve (t : FileTree) (path : String) : Option Place :=
  if path.isEmpty || Path.isAbsolute path then none else t.walk [] (Path.segments path)

/-- The contents of the file that a path leads to. -/
def read (t : FileTree) (path : String) : Option String :=
  (t.resolve path).bind t.files.get?

/-- Writes the file that a path leads to. Its directory has to be there. -/
def write? (t : FileTree) (path contents : String) : Option FileTree :=
  match t.resolve path with
  | none => none
  | some p =>
    if t.isDirectory p then none else some { t with files := t.files.insert p contents }

/-- Makes the directories on the way of a path. -/
def makeDirectories (t : FileTree) (p : Place) : List String → Option FileTree
  | [] => some t
  | segment :: rest =>
    match t.walk p [segment] with
    | none => none
    | some next =>
      if t.isDirectory next then makeDirectories t next rest
      else if t.files.contains next then none
      else makeDirectories { t with directories := t.directories ++ [next] } next rest

/-- Makes the directory that a path leads to. -/
def makeDirectory? (t : FileTree) (path : String) : Option FileTree :=
  if path.isEmpty || Path.isAbsolute path then none
  else t.makeDirectories [] (Path.segments path)

/-- A change of a tree as an operation on the state, which says whether it succeeded. -/
def attempt (change : FileTree → Option FileTree) : StateM FileTree Bool := fun t =>
  match change t with
  | some next => (true, next)
  | none => (false, t)

/-- Access to a tree in memory. -/
def access : FileAccess (StateM FileTree) where
  read path := fun t => (t.read path, t)
  write path contents := attempt fun t => t.write? path contents
  makeDirectory path := attempt fun t => t.makeDirectory? path

end FileTree

end SdkLayout
