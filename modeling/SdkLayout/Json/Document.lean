import SdkLayout.Json.Token

/-!
# Documents

Reading a text yields a `Document`: the value, and how the text ended. A text that stops being
JSON somewhere still yields the value up to that place, with all open containers closed, so that a
decoder can tell whether a fault of the contents came before the fault of the text.

**Positions.** A place in a document is the list of the indices that lead to it from the outside
in. Positions are ordered as the text is: a container starts before its members.

The reader is a machine with a stack of open containers. It never recurses, so the depth of a
document is bounded by memory alone.
-/

namespace SdkLayout.Json

/-- A place in a document: the indices of the members that lead to it. -/
abbrev Position := List Nat

/-- Whether one position comes before another in the text. -/
def Position.before : Position → Position → Bool
  | _, [] => false
  | [], _ :: _ => true
  | i :: p, j :: q => decide (i < j) || (i == j && Position.before p q)

/-- How a text ended. -/
inductive Ending where
  /-- With the value, or white space after it. -/
  | clean
  /-- With something else after the value. -/
  | trailing
  /-- Within the value, at the given position. -/
  | broken (position : Position)

/-- A value read from a text, up to the end of the text. -/
structure Document where
  value : Json
  ending : Ending

namespace Document

/-! ### The reader -/

/-- A container that is not closed yet, its contents last first. -/
inductive Frame where
  | array (elements : List Json)
  /-- An object and the key whose value is due. `spoken` says whether all its keys have a text. -/
  | object (members : List (String × Json)) (key : String) (spoken : Bool)

/-- The value of a container once it is closed. -/
def Frame.close : Frame → Json
  | .array elements => .array elements.reverse
  | .object members _ spoken => if spoken then .object members.reverse else .textless

/-- Puts a value into a container. -/
def Frame.add (j : Json) : Frame → Frame
  | .array elements => .array (j :: elements)
  | .object members key spoken => .object ((key, j) :: members) key spoken

/-- How many members a container has so far. -/
def Frame.count : Frame → Nat
  | .array elements => elements.length
  | .object members _ _ => members.length

/-- What may come next. -/
inductive Due where
  | value
  /-- A value, or the end of an array that was just opened. -/
  | firstElement
  /-- A key, or the end of an object that was just opened. -/
  | firstKey
  | key
  | colon
  /-- A comma, or the end of the innermost container. -/
  | separator
  /-- Nothing: the value is complete. -/
  | nothing
  deriving DecidableEq

/-- A reader in the middle of a text. -/
structure Reader where
  due : Due
  /-- The open containers, innermost first. -/
  stack : List Frame
  /-- The value, once it is complete. -/
  root : Json
  ending : Ending

namespace Reader

/-- A reader at the start of a text. -/
def start : Reader :=
  ⟨.value, [], .null, .clean⟩

/-- The position that the reader has reached. -/
def position (r : Reader) : Position :=
  (r.stack.map Frame.count).reverse

/-- Notes that the text is no JSON from here on. -/
def fail (r : Reader) : Reader :=
  { r with ending := .broken r.position }

/-- Takes a complete value. -/
def put (j : Json) (r : Reader) : Reader :=
  match r.stack with
  | [] => { r with due := .nothing, root := j }
  | frame :: stack => { r with due := .separator, stack := frame.add j :: stack }

/-- Opens a container. -/
def push (frame : Frame) (due : Due) (r : Reader) : Reader :=
  { r with due := due, stack := frame :: r.stack }

/-- Closes the innermost container. -/
def pop (r : Reader) : Reader :=
  match r.stack with
  | [] => r.fail
  | frame :: stack => put frame.close { r with stack := stack }

/-- Takes a key. -/
def takeKey (key : Option String) (r : Reader) : Reader :=
  match r.stack with
  | .object members _ spoken :: stack =>
    { r with due := .colon, stack := .object members (key.getD "") (spoken && key.isSome) :: stack }
  | _ => r.fail

/-- Takes a comma. -/
def takeComma (r : Reader) : Reader :=
  match r.stack with
  | .array _ :: _ => { r with due := .value }
  | .object _ _ _ :: _ => { r with due := .key }
  | [] => r.fail

/-- Takes the first token of a value. -/
def takeValue (t : Token) (r : Reader) : Reader :=
  match t with
  | .openArray => r.push (.array []) .firstElement
  | .openObject => r.push (.object [] "" true) .firstKey
  | .text (some s) => r.put (.string s)
  | .text none => r.put .textless
  | .scalar j => r.put j
  | _ => r.fail

/-- Takes a closing bracket if it belongs to the innermost container. -/
def takeClose (t : Token) (r : Reader) : Reader :=
  match t, r.stack with
  | .closeArray, .array _ :: _ => r.pop
  | .closeObject, .object _ _ _ :: _ => r.pop
  | _, _ => r.fail

/-- Takes a token. -/
def step (r : Reader) (t : Token) : Reader :=
  match r.due, t with
  | .value, t => r.takeValue t
  | .firstElement, .closeArray => r.pop
  | .firstElement, t => r.takeValue t
  | .firstKey, .closeObject => r.pop
  | .firstKey, .text k => r.takeKey k
  | .key, .text k => r.takeKey k
  | .colon, .colon => { r with due := .value }
  | .separator, .comma => r.takeComma
  | .separator, t => r.takeClose t
  | .nothing, _ => { r with ending := .trailing }
  | _, _ => r.fail

/-- Reads a text, one token per unit of fuel. A text has no more tokens than characters. -/
def run : Nat → Reader → List Char → Reader
  | 0, r, _ => r
  | fuel + 1, r, cs =>
    match r.ending with
    | .clean =>
      match cs.dropWhile isSpace with
      | [] => if r.due = .nothing then r else r.fail
      | rest@(_ :: _) =>
        match lexToken rest with
        | some (t, after) => run fuel (r.step t) after
        | none => if r.due = .nothing then { r with ending := .trailing } else r.fail
    | _ => r

/-- The value that the reader has, its open containers closed. -/
def value (r : Reader) : Json :=
  if r.due = .nothing then r.root
  else match r.stack with
    | [] => .null
    | frame :: stack => stack.foldl (fun j outer => (outer.add j).close) frame.close

end Reader

/-- Reads a text. -/
def read (text : List Char) : Document :=
  let r := Reader.run (text.length + 1) .start text
  ⟨r.value, r.ending⟩

/-- The value of a text that is JSON from end to end and can be stored without knowing its type. -/
def value? (text : List Char) : Option Json :=
  match read text with
  | ⟨j, .clean⟩ => if j.isStorable 0 then some j else none
  | _ => none

end Document

end SdkLayout.Json
