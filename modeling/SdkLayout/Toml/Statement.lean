import SdkLayout.Toml.Scalar

/-!
# Statements of TOML

A TOML document is a list of statements, each on a line of its own: headers, which open a table,
and assignments, which put a value under a key. This module says what they are and reads them; what
they mean together is said in `SdkLayout.Toml.Tree`.

A value may nest at most `depthLimit` deep, and a key path may have at most as many keys.
-/

namespace SdkLayout.Toml

/-- A key with the keys of the tables around it, as they are written with dots. -/
structure KeyPath where
  parents : List String
  last : String
  deriving DecidableEq, Repr

/-- A value as it is written. -/
inductive Expr where
  | scalar (value : Scalar)
  | array (elements : List Expr)
  /-- A table in braces. -/
  | inlineTable (assignments : List (KeyPath × Expr))

/-- A line of a document. -/
inductive Statement where
  /-- The header of a table, or of a new element of an array of tables. -/
  | header (element : Bool) (path : KeyPath)
  | assignment (path : KeyPath) (value : Expr)

/-- How deep values may nest, and how many keys a key path may have. -/
def depthLimit : Nat :=
  80

/-! ### Keys -/

/-- Whether a character may stand in a key without quotes. -/
def isKeyChar (c : Char) : Bool :=
  c.isAlphanum || c == '_' || c == '-'

/-- Reads a key without dots. -/
def simpleKey? (cs : List Char) : Option (String × List Char) :=
  match cs.takeWhile isKeyChar with
  | [] => shortString? cs
  | name => some (String.ofList name, cs.drop name.length)

/-- Reads the keys of a path, at most as many as given, and the blanks after them. -/
def keys? : Nat → List Char → Option (List String × List Char)
  | 0, _ => none
  | limit + 1, cs =>
    match simpleKey? cs with
    | none => none
    | some (key, rest) =>
      match skipBlanks rest with
      | '.' :: more => (keys? limit (skipBlanks more)).map fun r => (key :: r.1, r.2)
      | after => some ([key], after)

/-- Reads a key path and the blanks after it. -/
def keyPath? (cs : List Char) : Option (KeyPath × List Char) :=
  match keys? depthLimit cs with
  | none => none
  | some (keys, rest) => keys.getLast?.map fun last => (⟨keys.dropLast, last⟩, rest)

/-! ### Values -/

/-- Reads the key path of an assignment within braces, its equals sign and what may stand before
the value. -/
def assigned? (cs : List Char) : Option (KeyPath × List Char) :=
  match keyPath? cs with
  | none => none
  | some (path, rest) =>
    match skipGap false rest with
    | '=' :: more => some (path, skipGap false more)
    | _ => none

mutual

/-- Reads a value. `depth` is how deep it may nest; every step takes a unit of fuel. -/
def expr? : Nat → Nat → List Char → Option (Expr × List Char)
  | 0, _, _ => none
  | fuel + 1, depth, cs =>
    match cs with
    | '[' :: rest =>
      if depth = 0 then none
      else (elements? fuel (depth - 1) (skipGap false rest)).map fun r => (.array r.1, r.2)
    | '\x7b' :: rest =>
      if depth = 0 then none
      else
        (assignments? fuel (depth - 1) (skipGap false rest)).map fun r => (.inlineTable r.1, r.2)
    | _ => (scalar? cs).map fun r => (.scalar r.1, r.2)

/-- Reads the elements of an array and its closing bracket. -/
def elements? : Nat → Nat → List Char → Option (List Expr × List Char)
  | 0, _, _ => none
  | fuel + 1, depth, cs =>
    match cs with
    | ']' :: rest => some ([], rest)
    | _ =>
      match expr? fuel depth cs with
      | none => none
      | some (e, rest) =>
        match skipGap false rest with
        | ',' :: more =>
          (elements? fuel depth (skipGap false more)).map fun r => (e :: r.1, r.2)
        | ']' :: after => some ([e], after)
        | _ => none

/-- Reads the assignments of a table in braces and its closing brace. -/
def assignments? : Nat → Nat → List Char → Option (List (KeyPath × Expr) × List Char)
  | 0, _, _ => none
  | fuel + 1, depth, cs =>
    match cs with
    | '\x7d' :: rest => some ([], rest)
    | _ =>
      match assigned? cs with
      | none => none
      | some (path, inside) =>
        match expr? fuel depth inside with
        | none => none
        | some (e, rest) =>
          match skipGap false rest with
          | ',' :: more =>
            (assignments? fuel depth (skipGap false more)).map fun r => ((path, e) :: r.1, r.2)
          | '\x7d' :: after => some ([(path, e)], after)
          | _ => none

end

/-- Reads a value. A value takes no more than two steps per character. -/
def value? (cs : List Char) : Option (Expr × List Char) :=
  expr? (2 * cs.length + 2) depthLimit cs

/-! ### Documents -/

/-- Reads a header after its opening brackets. -/
def header? (element : Bool) (cs : List Char) : Option (Statement × List Char) :=
  match keyPath? (skipBlanks cs), element with
  | some (path, ']' :: rest), false => some (.header false path, rest)
  | some (path, ']' :: ']' :: rest), true => some (.header true path, rest)
  | _, _ => none

/-- Reads an assignment. -/
def assignment? (cs : List Char) : Option (Statement × List Char) :=
  match keyPath? cs with
  | some (path, '=' :: rest) =>
    (value? (skipBlanks rest)).map fun r => (.assignment path r.1, r.2)
  | _ => none

/-- Reads a statement. -/
def statement? : List Char → Option (Statement × List Char)
  | '[' :: '[' :: rest => header? true rest
  | '[' :: rest => header? false rest
  | cs => assignment? cs

/-- Reads statements to the end of the text, at most as many as given. -/
def statements? : Nat → List Char → Option (List Statement)
  | 0, _ => none
  | limit + 1, cs =>
    match skipGap false cs with
    | [] => some []
    | rest@(_ :: _) =>
      match statement? rest with
      | none => none
      | some (s, after) =>
        match endLine? after with
        | none => none
        | some next => (statements? limit next).map (s :: ·)

/-- A text without the byte order mark that it may start with. -/
def dropMark : List Char → List Char
  | '\ufeff' :: rest => rest
  | cs => cs

/-- Reads the statements of a document. -/
def Statement.ofText? (text : List Char) : Option (List Statement) :=
  statements? (text.length + 1) (dropMark text)

end SdkLayout.Toml
