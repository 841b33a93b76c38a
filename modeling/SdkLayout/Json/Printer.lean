import SdkLayout.Json.Value

/-!
# Writing JSON

Two layouts: the compact one has no white space at all, the indented one puts each element and
member on a line of its own, two spaces deeper than its container, and writes an empty container
as two brackets. In both, strings escape the quote, the backslash and the control characters and
nothing else.
-/

namespace SdkLayout.Json

/-- The two hexadecimal digits of a control character. -/
def hexPair (n : Nat) : List Char :=
  [Nat.digitChar (n / 16), Nat.digitChar (n % 16)]

/-- How a character is written inside a string. -/
def escapeChar (c : Char) : List Char :=
  match c.toNat with
  | 0x22 => ['\\', '"']
  | 0x5C => ['\\', '\\']
  | 0x08 => ['\\', 'b']
  | 0x09 => ['\\', 't']
  | 0x0A => ['\\', 'n']
  | 0x0C => ['\\', 'f']
  | 0x0D => ['\\', 'r']
  | n => if n < 0x20 then ['\\', 'u', '0', '0'] ++ hexPair n else [c]

/-- A string with its quotes. -/
def quote (s : String) : String :=
  String.ofList (('"' :: s.toList.flatMap escapeChar) ++ ['"'])

/-- The text of a string that has no text: an escaped half of a surrogate pair. -/
def textlessLiteral : String :=
  "\"\\ud800\""

mutual

/-- The compact text of a value. -/
def compact : Json → String
  | .null => "null"
  | .bool b => if b then "true" else "false"
  | .natural n => toString n
  | .number l => l.text
  | .string s => quote s
  | .array elements => "[" ++ ",".intercalate (compactElements elements) ++ "]"
  | .object members => "\x7b" ++ ",".intercalate (compactMembers members) ++ "\x7d"
  | .textless => textlessLiteral

/-- The compact texts of elements. -/
def compactElements : List Json → List String
  | [] => []
  | j :: rest => compact j :: compactElements rest

/-- The compact texts of members. -/
def compactMembers : List (String × Json) → List String
  | [] => []
  | (key, j) :: rest => (quote key ++ ":" ++ compact j) :: compactMembers rest

end

/-- A line break followed by the indentation of the given depth. -/
def lineBreak (depth : Nat) : String :=
  "\n" ++ String.ofList (List.replicate (2 * depth) ' ')

/-- Items on lines of their own between two brackets. -/
def bracketed (opening closing : String) (depth : Nat) (items : List String) : String :=
  if items.isEmpty then opening ++ closing
  else opening ++ lineBreak (depth + 1) ++ ("," ++ lineBreak (depth + 1)).intercalate items
    ++ lineBreak depth ++ closing

mutual

/-- The indented text of a value at the given depth. -/
def indented (depth : Nat) : Json → String
  | .array elements => bracketed "[" "]" depth (indentedElements (depth + 1) elements)
  | .object members =>
    bracketed "\x7b" "\x7d" depth (indentedMembers (depth + 1) members)
  | j => compact j

/-- The indented texts of elements. -/
def indentedElements (depth : Nat) : List Json → List String
  | [] => []
  | j :: rest => indented depth j :: indentedElements depth rest

/-- The indented texts of members. -/
def indentedMembers (depth : Nat) : List (String × Json) → List String
  | [] => []
  | (key, j) :: rest =>
    (quote key ++ ": " ++ indented depth j) :: indentedMembers depth rest

end

/-- The indented text of a document. -/
def pretty (j : Json) : String :=
  indented 0 j

end SdkLayout.Json
