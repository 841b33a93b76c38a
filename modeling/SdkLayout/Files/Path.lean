/-!
# Paths of files

A path is a text whose slashes separate its segments. A segment that is empty or a dot adds nothing
to what a path leads to, except at the front: an empty one there makes the path absolute, and a dot
is a segment of its own. Joining and taking the parent keep a path as it is written otherwise.
-/

namespace SdkLayout.Path

/-- The segments of a path, from the first to the last. There is at least one. -/
def splitChars : List Char → List (List Char)
  | [] => [[]]
  | c :: rest =>
    match splitChars rest with
    | [] => [[c]]
    | segment :: more =>
      if c = '/' then [] :: segment :: more else (c :: segment) :: more

/-- The segments of a path, from the first to the last. -/
def segments (path : String) : List String :=
  (splitChars path.toList).map String.ofList

/-- Whether a path starts at the root of all files. -/
def isAbsolute (path : String) : Bool :=
  path.toList.head? == some '/'

/-- Whether a segment behind the first adds nothing to a path. -/
def isTrivial (segment : String) : Bool :=
  segment.isEmpty || segment == "."

/-- Segments without the trivial ones at the end. -/
def dropTrivial (segments : List String) : List String :=
  (segments.reverse.dropWhile isTrivial).reverse

/-- The path that `path` is when it is read relative to `base`. -/
def join (base path : String) : String :=
  if isAbsolute path || base.isEmpty then path
  else if base.toList.getLast? = some '/' then base ++ path
  else base ++ "/" ++ path

/-- The path of segments, of which the first is given apart. -/
def ofSegments (first : String) (rest : List String) : String :=
  if first.isEmpty && rest.isEmpty then "/" else "/".intercalate (first :: rest)

/-- The path of the directory that something lies in. The empty path and the root of all files have
none. -/
def parent? (path : String) : Option String :=
  match segments path with
  | [] => none
  | first :: rest =>
    match dropTrivial rest with
    | [] => if first.isEmpty then none else some ""
    | rest@(_ :: _) => some (ofSegments first (dropTrivial rest.dropLast))

end SdkLayout.Path
