import SdkLayout.Json.Value

/-!
# Tokens of a JSON text

A text is cut into brackets, separators and scalars. The lexer is strict: numbers have no leading
zeros, strings hold no raw control characters, and white space is the space, the tab and the two
line break characters.

Strings are read in three steps, each a plain pass over a list: the raw body up to the closing
quote (`takeBody`), its escapes resolved to UTF-16 units (`resolve`), and the units joined to
characters (`joinUnits`).
-/

namespace SdkLayout.Json

/-- A token. -/
inductive Token where
  | openArray
  | closeArray
  | openObject
  | closeObject
  | colon
  | comma
  /-- A string, absent if it has no text. -/
  | text (value : Option String)
  /-- Any other scalar. -/
  | scalar (value : Json)

/-! ### Strings -/

/-- Splits off the raw body of a string, up to its closing quote. `body` is what was read so far,
last character first. -/
def takeBody (body : List Char) : List Char → Option (List Char × List Char)
  | [] => none
  | '"' :: rest => some (body.reverse, rest)
  | '\\' :: c :: rest => takeBody (c :: '\\' :: body) rest
  | c :: rest => if c.toNat < 0x20 then none else takeBody (c :: body) rest

/-- The value of a hexadecimal digit. -/
def hexValue? (c : Char) : Option Nat :=
  if '0' ≤ c ∧ c ≤ '9' then some (c.toNat - 48)
  else if 'a' ≤ c ∧ c ≤ 'f' then some (c.toNat - 87)
  else if 'A' ≤ c ∧ c ≤ 'F' then some (c.toNat - 55)
  else none

/-- What a one-letter escape stands for. -/
def simpleEscape? : Char → Option Char
  | '"' => some '"'
  | '\\' => some '\\'
  | '/' => some '/'
  | 'b' => some '\x08'
  | 'f' => some '\x0c'
  | 'n' => some '\n'
  | 'r' => some '\r'
  | 't' => some '\t'
  | _ => none

/-- A piece of a string: a character, or a unit of UTF-16 from an escape. -/
inductive Piece where
  | char (c : Char)
  | unit (n : Nat)

/-- Where a reader of string bodies stands. -/
inductive EscapeState where
  /-- Between pieces. -/
  | plain
  /-- After a backslash. -/
  | escape
  /-- After `missing` digits short of a unit whose value so far is `value`. -/
  | digits (missing value : Nat)
  /-- After something that is no escape. -/
  | failed

/-- Reads one character of a string body; the pieces are collected last piece first. -/
def resolveStep : EscapeState × List Piece → Char → EscapeState × List Piece
  | (.plain, pieces), c => if c = '\\' then (.escape, pieces) else (.plain, .char c :: pieces)
  | (.escape, pieces), c =>
    if c = 'u' then (.digits 4 0, pieces)
    else match simpleEscape? c with
      | some d => (.plain, .char d :: pieces)
      | none => (.failed, pieces)
  | (.digits missing value, pieces), c =>
    match hexValue? c with
    | none => (.failed, pieces)
    | some h =>
      if missing ≤ 1 then (.plain, .unit (16 * value + h) :: pieces)
      else (.digits (missing - 1) (16 * value + h), pieces)
  | (.failed, pieces), _ => (.failed, pieces)

/-- The pieces of a string body, absent if an escape is malformed. -/
def resolve (body : List Char) : Option (List Piece) :=
  match body.foldl resolveStep (.plain, []) with
  | (.plain, pieces) => some pieces.reverse
  | _ => none

/-- Joins pieces to characters, absent if half of a surrogate pair stands alone. `done` is the
result so far, last character first. -/
def joinUnits (done : List Char) : List Piece → Option (List Char)
  | [] => some done.reverse
  | .char c :: rest => joinUnits (c :: done) rest
  | .unit high :: .unit low :: rest =>
    if 0xD800 ≤ high ∧ high < 0xDC00 then
      if 0xDC00 ≤ low ∧ low < 0xE000 then
        joinUnits (Char.ofNat (0x10000 + (high - 0xD800) * 0x400 + (low - 0xDC00)) :: done) rest
      else none
    else if 0xDC00 ≤ high ∧ high < 0xE000 then none
    else joinUnits (Char.ofNat high :: done) (.unit low :: rest)
  | .unit n :: rest =>
    if 0xD800 ≤ n ∧ n < 0xE000 then none else joinUnits (Char.ofNat n :: done) rest

/-- Reads a string after its opening quote. -/
def lexString (cs : List Char) : Option (Token × List Char) :=
  match takeBody [] cs with
  | none => none
  | some (body, rest) =>
    (resolve body).map fun pieces => (.text ((joinUnits [] pieces).map String.ofList), rest)

/-! ### Numbers -/

/-- Splits a text after its leading digits. -/
def spanDigits (cs : List Char) : List Char × List Char :=
  cs.span Char.isDigit

/-- Reads the digits before the point: a zero alone, or digits that do not start with zero. -/
def lexWhole : List Char → Option (List Char × List Char)
  | '0' :: rest => if rest.head?.any Char.isDigit then none else some (['0'], rest)
  | cs => if cs.head?.any Char.isDigit then some (spanDigits cs) else none

/-- Reads the digits after the point, none if there is no point. -/
def lexFraction : List Char → Option (List Char × List Char)
  | '.' :: rest =>
    let (digits, after) := spanDigits rest
    if digits.isEmpty then none else some (digits, after)
  | cs => some ([], cs)

/-- Reads the digits of an exponent after its sign. -/
def lexExponentDigits (negative : Bool) (cs : List Char) : Option (Option Int × List Char) :=
  let (digits, after) := spanDigits cs
  if digits.isEmpty then none
  else
    let e := Int.ofNat (naturalOf digits)
    some (some (if negative then -e else e), after)

/-- Reads the exponent if there is one. -/
def lexExponent : List Char → Option (Option Int × List Char)
  | c :: rest =>
    if c = 'e' ∨ c = 'E' then
      match rest with
      | '+' :: after => lexExponentDigits false after
      | '-' :: after => lexExponentDigits true after
      | _ => lexExponentDigits false rest
    else some (none, c :: rest)
  | [] => some (none, [])

/-- Reads a number after its sign. -/
def lexUnsigned (negative : Bool) (cs : List Char) : Option (Token × List Char) := do
  let (whole, rest) ← lexWhole cs
  let (fraction, rest) ← lexFraction rest
  let (exponent, rest) ← lexExponent rest
  if !negative && fraction.isEmpty && exponent.isNone then
    return (.scalar (.natural (naturalOf whole)), rest)
  else
    return (.scalar (.number ⟨negative, whole, fraction, exponent⟩), rest)

/-- Reads a number. -/
def lexNumber : List Char → Option (Token × List Char)
  | '-' :: rest => lexUnsigned true rest
  | cs => lexUnsigned false cs

/-! ### Tokens -/

/-- Whether a character is white space between tokens. -/
def isSpace (c : Char) : Bool :=
  c == ' ' || c == '\n' || c == '\t' || c == '\r'

/-- Reads a word that stands for a value. -/
def lexWord (word : List Char) (value : Json) (cs : List Char) : Option (Token × List Char) :=
  if word.isPrefixOf cs then some (.scalar value, cs.drop word.length) else none

/-- Reads the token that a text starts with. -/
def lexToken : List Char → Option (Token × List Char)
  | [] => none
  | c :: rest =>
    if c = '[' then some (.openArray, rest)
    else if c = ']' then some (.closeArray, rest)
    else if c.toNat = 0x7B then some (.openObject, rest)
    else if c.toNat = 0x7D then some (.closeObject, rest)
    else if c = ':' then some (.colon, rest)
    else if c = ',' then some (.comma, rest)
    else if c = '"' then lexString rest
    else if c = 'n' then lexWord ['n', 'u', 'l', 'l'] .null (c :: rest)
    else if c = 't' then lexWord ['t', 'r', 'u', 'e'] (.bool true) (c :: rest)
    else if c = 'f' then lexWord ['f', 'a', 'l', 's', 'e'] (.bool false) (c :: rest)
    else lexNumber (c :: rest)

end SdkLayout.Json
