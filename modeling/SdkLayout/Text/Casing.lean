import SdkLayout.Text.Words

/-!
# Casings

The four ways in which generated code writes an identifier. Each is a projection of the words of
the identifier (`splitWords`): the words are put into a case one by one and then joined, with an
underscore or with nothing between them.
-/

namespace SdkLayout.Text

/-- Writes words next to each other with `separator` between them. -/
def joinWith (separator : List Char) (words : List (List Char)) : List Char :=
  separator.intercalate words

/-- The words of a name in `camelCase`: lower case first, the others capitalized. -/
def camelWords : List (List Char) → List Char
  | [] => []
  | word :: words => lower word ++ words.flatMap capitalize

/-- An identifier in `camelCase`. -/
def camelCase (cs : List Char) : List Char :=
  camelWords (splitWords cs)

/-- An identifier in `PascalCase`. -/
def pascalCase (cs : List Char) : List Char :=
  (splitWords cs).flatMap capitalize

/-- An identifier in `snake_case`. -/
def snakeCase (cs : List Char) : List Char :=
  joinWith ['_'] ((splitWords cs).map lower)

/-- An identifier in `SCREAMING_SNAKE_CASE`. -/
def screamingSnakeCase (cs : List Char) : List Char :=
  joinWith ['_'] ((splitWords cs).map upper)

end SdkLayout.Text

namespace SdkLayout

/-- The casings of an identifier. -/
inductive Casing where
  | camel
  | pascal
  | snake
  | screamingSnake
  deriving DecidableEq, Repr

/-- Writes an identifier in a casing. -/
def Casing.write (casing : Casing) (s : String) : String :=
  String.ofList <| match casing with
    | .camel => Text.camelCase s.toList
    | .pascal => Text.pascalCase s.toList
    | .snake => Text.snakeCase s.toList
    | .screamingSnake => Text.screamingSnakeCase s.toList

end SdkLayout
