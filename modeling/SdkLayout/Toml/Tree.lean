import SdkLayout.Toml.Statement

/-!
# The tree of a TOML document

The statements of a document define a tree of tables. Most of the rules say what may not be defined
twice: a key has one value, and a table is defined in one place only, by a header, by the dotted
keys of one table, or in braces. A table that headers only pass through is not defined by that, and
a header may still define it.
-/

namespace SdkLayout.Toml

/-- How a table came to be. -/
inductive Origin where
  /-- By a header, or as the root of the document. -/
  | header
  /-- On the way of a header to a table within. -/
  | passed
  /-- On the way of a dotted key. -/
  | dotted
  /-- In braces, at once. -/
  | inline
  deriving DecidableEq, Repr

/-- A value of a document. -/
inductive Value where
  | scalar (value : Scalar)
  /-- An array. It is extensible if headers define its elements. -/
  | array (extensible : Bool) (elements : List Value)
  | table (origin : Origin) (entries : List (String × Value))

/-- The entries of a table, in the order in which they were defined. -/
abbrev Entries := List (String × Value)

namespace Entries

/-- The value under a key. -/
def get? (entries : Entries) (key : String) : Option Value :=
  (entries.find? fun e => e.1 == key).map Prod.snd

/-- Whether there is a value under a key. -/
def has (entries : Entries) (key : String) : Bool :=
  entries.any fun e => e.1 == key

/-- Puts another value under a key that is there. -/
def replace (entries : Entries) (key : String) (value : Value) : Entries :=
  entries.map fun e => if e.1 = key then (key, value) else e

/-- Defines a value under a new key. -/
def define? (entries : Entries) (key : String) (value : Value) : Option Entries :=
  if has entries key then none else some (entries ++ [(key, value)])

/-- Changes a table on a path and everything around it. Tables that are missing on the way are
made. A dotted path does not enter a table that a header has defined. -/
def descend (isDotted : Bool) (change : Origin → Entries → Option Entries) :
    List String → Origin → Entries → Option Entries
  | [], origin, entries => change origin entries
  | key :: path, _, entries =>
    match get? entries key with
    | none =>
      let made : Origin := if isDotted then .dotted else .passed
      (descend isDotted change path made []).map fun inner =>
        entries ++ [(key, .table made inner)]
    | some (.table origin inner) =>
      if origin = .inline ∨ (isDotted ∧ origin = .header) then none
      else (descend isDotted change path origin inner).map fun inner =>
        replace entries key (.table origin inner)
    | some (.array true elements) =>
      match elements.getLast? with
      | some (.table origin inner) =>
        (descend isDotted change path origin inner).map fun inner =>
          replace entries key (.array true (elements.dropLast ++ [.table origin inner]))
      | _ => none
    | some _ => none

/-- Assigns a value to a key path within a table. A path with dots has to end in a table that dotted
keys define, a path without dots in any other. -/
def assign? (path : KeyPath) (value : Value) (origin : Origin) (entries : Entries) :
    Option Entries :=
  descend true
    (fun reached inner =>
      if decide (reached = .dotted) = path.parents.isEmpty then none
      else define? inner path.last value)
    path.parents origin entries

/-- Opens a table under a key, by its header. -/
def openTable? (key : String) (entries : Entries) : Option Entries :=
  match get? entries key with
  | none => some (entries ++ [(key, .table .header [])])
  | some (.table .passed inner) => some (replace entries key (.table .header inner))
  | some _ => none

/-- Opens a new element of an array of tables under a key, by its header. -/
def openElement? (key : String) (entries : Entries) : Option Entries :=
  match get? entries key with
  | none => some (entries ++ [(key, .array true [.table .header []])])
  | some (.array true elements) =>
    some (replace entries key (.array true (elements ++ [.table .header []])))
  | some _ => none

end Entries

/-! ### Values -/

mutual

/-- The value that is written. A table in braces must not define anything twice. -/
def Expr.value? : Expr → Option Value
  | .scalar s => some (.scalar s)
  | .array elements => (values? elements).map (.array false)
  | .inlineTable assignments => (entries? [] assignments).map (.table .inline)

/-- The values of the elements of an array. -/
def Expr.values? : List Expr → Option (List Value)
  | [] => some []
  | e :: rest =>
    match Expr.value? e with
    | none => none
    | some v => (Expr.values? rest).map (v :: ·)

/-- The entries that assignments add to those before. -/
def Expr.entries? (before : Entries) : List (KeyPath × Expr) → Option Entries
  | [] => some before
  | (path, e) :: rest =>
    match Expr.value? e with
    | none => none
    | some v =>
      match Entries.assign? path v .header before with
      | none => none
      | some next => Expr.entries? next rest

end

/-! ### Documents -/

/-- A document as far as it is read: the root table, and the path of the table that the last header
opened. -/
structure Outline where
  root : Entries
  opened : List String

namespace Outline

/-- The outline before the first statement. -/
def empty : Outline :=
  ⟨[], []⟩

/-- Opens the table of a header. -/
def openHeader? (o : Outline) (element : Bool) (path : KeyPath) : Option Outline :=
  (Entries.descend false
      (fun _ inner =>
        if element then Entries.openElement? path.last inner
        else Entries.openTable? path.last inner)
      path.parents .header o.root).map fun root =>
    ⟨root, path.parents ++ [path.last]⟩

/-- Assigns a value within the table that was opened last. -/
def assign? (o : Outline) (path : KeyPath) (value : Value) : Option Outline :=
  (Entries.descend false (Entries.assign? path value) o.opened .header o.root).map fun root =>
    { o with root := root }

/-- Takes a statement. -/
def take? (o : Outline) : Statement → Option Outline
  | .header element path => o.openHeader? element path
  | .assignment path e =>
    match e.value? with
    | none => none
    | some v => o.assign? path v

end Outline

/-- The root table of a document. -/
def read? (text : List Char) : Option Entries :=
  match Statement.ofText? text with
  | none => none
  | some statements => (statements.foldlM Outline.take? .empty).map Outline.root

end SdkLayout.Toml
