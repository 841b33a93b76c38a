/-!
# Spacing in TOML

What may stand between the parts of a TOML document: blanks, comments and line breaks. Blanks
separate the parts of a line. A comment runs to the end of its line, and a line break is a line
feed, perhaps with a carriage return in front. Control characters are allowed nowhere, tabs apart.
-/

namespace SdkLayout.Toml

/-- Whether a character separates the parts of a line. -/
def isBlank (c : Char) : Bool :=
  c == ' ' || c == '\t'

/-- Whether a character is a control character other than tab. -/
def isControl (c : Char) : Bool :=
  (decide (c.toNat < 0x20) && c != '\t') || c.toNat == 0x7f

/-- The text after leading blanks. -/
def skipBlanks (cs : List Char) : List Char :=
  cs.dropWhile isBlank

/-- The text after a comment, if it starts with one. -/
def skipComment : List Char → List Char
  | '#' :: rest => rest.dropWhile fun c => !isControl c
  | cs => cs

/-- The text after a line break. The end of the text ends a line as well. -/
def lineEnd? : List Char → Option (List Char)
  | [] => some []
  | '\n' :: rest => some rest
  | '\r' :: '\n' :: rest => some rest
  | _ => none

/-- The text after the rest of a line on which nothing else may stand. -/
def endLine? (cs : List Char) : Option (List Char) :=
  lineEnd? (skipComment (skipBlanks cs))

/-- The text after blanks, comments and line breaks. `inComment` says whether it starts within a
comment. -/
def skipGap (inComment : Bool) : List Char → List Char
  | [] => []
  | '\n' :: rest => skipGap false rest
  | '\r' :: '\n' :: rest => skipGap false rest
  | c :: rest =>
    if inComment then if isControl c then c :: rest else skipGap true rest
    else if isBlank c then skipGap false rest
    else if c == '#' then skipGap true rest
    else c :: rest

end SdkLayout.Toml
