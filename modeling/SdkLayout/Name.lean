import SdkLayout.Keyword
import SdkLayout.Text.Casing

/-!
# Names

A name carries the identifier of the API definition together with its form in each casing. Names
are usually derived from the identifier (`Name.ofIdentifier`), but a document may bring forms of its
own, and these are kept as they are.
-/

namespace SdkLayout

/-- One casing of a name. -/
structure CasedName where
  /-- The form to use as an identifier: the plain form, escaped where it is a keyword. -/
  safe : String
  /-- The plain form. -/
  plain : String
  deriving DecidableEq, Repr

/-- The cased name of a plain form. -/
def CasedName.ofPlain (plain : String) : CasedName :=
  ⟨escapeKeyword plain, plain⟩

/-- An identifier in every casing. -/
structure Name where
  /-- The identifier as the API definition writes it. -/
  identifier : String
  camel : CasedName
  pascal : CasedName
  snake : CasedName
  screamingSnake : CasedName
  deriving DecidableEq, Repr

namespace Name

/-- Derives every casing from the identifier. -/
def ofIdentifier (identifier : String) : Name where
  identifier
  camel := .ofPlain (Casing.camel.write identifier)
  pascal := .ofPlain (Casing.pascal.write identifier)
  snake := .ofPlain (Casing.snake.write identifier)
  screamingSnake := .ofPlain (Casing.screamingSnake.write identifier)

@[simp] theorem identifier_ofIdentifier (s : String) : (ofIdentifier s).identifier = s := rfl

/-- The directory and package that the name stands for: its safe camel case in lower case. -/
def segment (name : Name) : String :=
  lowercase name.camel.safe

/-- The file that the name stands for, without extension: its plain snake case. -/
def basename (name : Name) : String :=
  name.snake.plain

/-- The exported symbol that the name stands for: its plain pascal case. -/
def exported (name : Name) : String :=
  name.pascal.plain

/-- The identifiers of several names, with slashes between them. -/
def joinIdentifiers (names : List Name) : String :=
  "/".intercalate (names.map identifier)

end Name

end SdkLayout
