import SdkLayout.Toml.Spacing

/-!
# Quoted strings in TOML

There are four kinds of quoted strings: *basic* ones in double quotes, which know escapes, and
*literal* ones in single quotes, which do not; each on one line between single marks, or over
several lines between triple marks.

Reading takes two steps. The body is what stands between the marks, with its escapes as they are
written. `decode` then replaces the escapes, character by character.
-/

namespace SdkLayout.Toml

/-- A kind of quotation. -/
structure Quotation where
  /-- Whether a backslash starts an escape. -/
  escapes : Bool
  /-- Whether the string may run over several lines. -/
  long : Bool
  deriving DecidableEq, Repr

namespace Quotation

/-- The character that the marks consist of. -/
def mark (q : Quotation) : Char :=
  if q.escapes then '"' else '\x27'

/-- How many characters a mark has. -/
def width (q : Quotation) : Nat :=
  if q.long then 3 else 1

/-- How many further marks may stand right before the closing one. -/
def slack (q : Quotation) : Nat :=
  if q.long then 2 else 0

/-- The length of the run of marking characters at the start of a text. -/
def runLength (q : Quotation) (cs : List Char) : Nat :=
  (cs.takeWhile (· == q.mark)).length

/-- The body of a string and the text after its closing mark. The body may end in characters like
the mark, as far as there is slack. -/
def body? (q : Quotation) : List Char → Option (List Char × List Char)
  | [] => none
  | c :: rest =>
    let run := q.runLength (c :: rest)
    if q.width ≤ run then
      let own := min (run - q.width) q.slack
      some (List.replicate own q.mark, (c :: rest).drop (own + q.width))
    else if q.escapes && c == '\\' then
      match rest with
      | [] => none
      | d :: rest => (body? q rest).map fun r => (c :: d :: r.1, r.2)
    else (body? q rest).map fun r => (c :: r.1, r.2)

/-- Whether a body has only characters that its kind allows: no control characters, but line
breaks in a long string. -/
def allows (q : Quotation) : List Char → Bool
  | [] => true
  | '\n' :: rest => q.long && q.allows rest
  | '\r' :: '\n' :: rest => q.long && q.allows rest
  | c :: rest => !isControl c && q.allows rest

end Quotation

/-! ### Escapes -/

/-- Where the decoding of a body stands. -/
inductive EscapeState where
  | plain
  /-- Right after a backslash. -/
  | escaped
  /-- In the code of a character: the digits still to come and the number so far. -/
  | code (due value : Nat)
  /-- Within the white space that an escaped line break swallows, `broken` once the line break has
  come. -/
  | swallowing (broken : Bool)
  deriving DecidableEq, Repr

/-- The character that a letter stands for after a backslash. -/
def shortEscape? : Char → Option Char
  | 'b' => some '\x08'
  | 'e' => some '\x1b'
  | 't' => some '\t'
  | 'n' => some '\n'
  | 'f' => some '\x0c'
  | 'r' => some '\r'
  | '"' => some '"'
  | '\\' => some '\\'
  | _ => none

/-- The value of a hexadecimal digit. -/
def hexValue? (c : Char) : Option Nat :=
  if '0' ≤ c ∧ c ≤ '9' then some (c.toNat - 48)
  else if 'a' ≤ c ∧ c ≤ 'f' then some (c.toNat - 87)
  else if 'A' ≤ c ∧ c ≤ 'F' then some (c.toNat - 55)
  else none

/-- The character with a number, if there is one. -/
def charOfNat? (n : Nat) : Option Char :=
  if n.isValidChar then some (Char.ofNat n) else none

/-- Whether a character is part of a line break. -/
def isLineBreak (c : Char) : Bool :=
  c == '\n' || c == '\r'

namespace EscapeState

/-- Takes a character outside escapes. -/
def takePlain (escapes : Bool) (c : Char) : EscapeState × List Char :=
  if escapes && c == '\\' then (.escaped, []) else (.plain, [c])

/-- Takes the character after a backslash. In a long string it may start a line break. -/
def takeEscaped (long : Bool) (c : Char) : Option (EscapeState × List Char) :=
  if c == 'x' then some (.code 2 0, [])
  else if c == 'u' then some (.code 4 0, [])
  else if c == 'U' then some (.code 8 0, [])
  else if long && (isBlank c || isLineBreak c) then some (.swallowing (c == '\n'), [])
  else (shortEscape? c).map fun d => (.plain, [d])

/-- Takes a digit of a character code. -/
def takeDigit (due value : Nat) (c : Char) : Option (EscapeState × List Char) :=
  match hexValue? c with
  | none => none
  | some d =>
    let next := 16 * value + d
    if due ≤ 1 then (charOfNat? next).map fun x => (.plain, [x])
    else some (.code (due - 1) next, [])

/-- Takes a character after an escaped line break. -/
def takeSwallowed (escapes broken : Bool) (c : Char) : Option (EscapeState × List Char) :=
  if isBlank c || isLineBreak c then some (.swallowing (broken || c == '\n'), [])
  else if broken then some (takePlain escapes c)
  else none

/-- Takes a character of a body: the next state and what the character adds to the string. -/
def step (q : Quotation) (c : Char) : EscapeState → Option (EscapeState × List Char)
  | .plain => some (takePlain q.escapes c)
  | .escaped => takeEscaped q.long c
  | .code due value => takeDigit due value c
  | .swallowing broken => takeSwallowed q.escapes broken c

/-- Whether a body may end here. -/
def isFinal : EscapeState → Bool
  | .plain | .swallowing true => true
  | _ => false

end EscapeState

/-- The text of a body. -/
def Quotation.decode (q : Quotation) : EscapeState → List Char → Option (List Char)
  | state, [] => if state.isFinal then some [] else none
  | state, c :: rest =>
    match state.step q c with
    | none => none
    | some (next, own) => (q.decode next rest).map (own ++ ·)

/-! ### Reading -/

/-- The body of a long string without the line break that may follow its opening mark. -/
def dropFirstBreak : List Char → List Char
  | '\n' :: rest => rest
  | '\r' :: '\n' :: rest => rest
  | cs => cs

/-- Reads the rest of a string after its opening mark. -/
def Quotation.read? (q : Quotation) (cs : List Char) : Option (String × List Char) :=
  match q.body? cs with
  | none => none
  | some (body, rest) =>
    if q.allows body then
      (q.decode .plain (if q.long then dropFirstBreak body else body)).map fun text =>
        (String.ofList text, rest)
    else none

/-- Reads a string on one line. -/
def shortString? : List Char → Option (String × List Char)
  | '"' :: rest => Quotation.read? ⟨true, false⟩ rest
  | '\x27' :: rest => Quotation.read? ⟨false, false⟩ rest
  | _ => none

/-- Reads a string of any kind. -/
def string? : List Char → Option (String × List Char)
  | '"' :: '"' :: '"' :: rest => Quotation.read? ⟨true, true⟩ rest
  | '\x27' :: '\x27' :: '\x27' :: rest => Quotation.read? ⟨false, true⟩ rest
  | cs => shortString? cs

end SdkLayout.Toml
