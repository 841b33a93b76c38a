/-!
# Reserved words

The generated SDK is written in Go, whose keywords can name neither a declaration nor a package. A
name that collides with one gets an underscore at its end.
-/

namespace SdkLayout

/-- The keywords of Go. -/
def keywords : List String :=
  ["break", "case", "chan", "const", "continue", "default", "defer", "else", "fallthrough", "for",
    "func", "go", "goto", "if", "import", "interface", "map", "package", "range", "return",
    "select", "struct", "switch", "type", "var"]

/-- Whether a name is a keyword. -/
def isKeyword (name : String) : Bool :=
  keywords.contains name

/-- A name that is not a keyword: keywords get an underscore, other names stay. -/
def escapeKeyword (name : String) : String :=
  if isKeyword name then name ++ "_" else name

end SdkLayout
