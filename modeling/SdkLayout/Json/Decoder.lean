import SdkLayout.Json.Document
import SdkLayout.Table

/-!
# Decoding JSON values

A decoder turns a value into data of a type, or says where it could not and why. Of several faults
the one that comes first in the document counts, whatever the order in which the fields of a type
are declared; this is what `Decoded.seq` does.

**Structures** may be written as objects or as arrays of their fields in declaration order
(`structured`). In an object a repeated field is a fault and an unknown member is passed over; in
an array the fields that have a default may be missing at the end, and there must be nothing after
the last field.

**Unions** name their variant with the member `type`, or with the first element (`union`). A union
is stored before its variant is known, so all of it has to be storable (`Json.isStorable`). A union
within a stored value may name its variant by number.
-/

namespace SdkLayout.Json

/-- Why a value cannot be decoded. -/
inductive DecodeError where
  /-- The value has another form. -/
  | unreadable
  /-- All parts of a path, given here, disagree with its package path and file. -/
  | disagreeingPath (allParts : List String)
  deriving DecidableEq, Repr

/-- A cause and the place where it shows. -/
structure Fault where
  position : Position
  cause : DecodeError
  deriving DecidableEq, Repr

/-- The result of decoding. -/
inductive Decoded (α : Type) where
  | ok (value : α)
  | fault (fault : Fault)

namespace Decoded

variable {α β : Type}

/-- A fault of form right here. -/
def unreadable : Decoded α :=
  .fault ⟨[], .unreadable⟩

/-- A fault of form at the given member. -/
def unreadableAt (index : Nat) : Decoded α :=
  .fault ⟨[index], .unreadable⟩

/-- Moves the place of a fault into the member with the given index. -/
def inside (index : Nat) : Decoded α → Decoded α
  | .ok a => .ok a
  | .fault f => .fault { f with position := index :: f.position }

/-- Applies a function to a decoded value. -/
def map (f : α → β) : Decoded α → Decoded β
  | .ok a => .ok (f a)
  | .fault e => .fault e

/-- Applies a decoded function to a decoded value. Of two faults the earlier one counts. -/
def seq (f : Decoded (α → β)) (x : Decoded α) : Decoded β :=
  match f, x with
  | .ok f, .ok a => .ok (f a)
  | .ok _, .fault e => .fault e
  | .fault e, .ok _ => .fault e
  | .fault e, .fault e' => .fault (if e'.position.before e.position then e' else e)

instance : Applicative Decoded where
  pure := .ok
  map := map
  seq f x := f.seq (x ())

@[simp] theorem inside_ok (i : Nat) (a : α) : inside i (.ok a) = .ok a := rfl

@[simp] theorem pure_eq (a : α) : (pure a : Decoded α) = .ok a := rfl

@[simp] theorem map_ok (f : α → β) (a : α) : f <$> (Decoded.ok a) = .ok (f a) := rfl

@[simp] theorem seq_ok (f : α → β) (a : α) : (Decoded.ok f) <*> (Decoded.ok a) = .ok (f a) := rfl

/-- Whether decoding succeeded. -/
def value? : Decoded α → Option α
  | .ok a => some a
  | .fault _ => none

end Decoded

/-- What surrounds a value. -/
structure Scope where
  /-- How many containers enclose the value. -/
  depth : Nat
  /-- Whether the value is part of a stored one. -/
  stored : Bool

/-- The scope of a whole document. -/
def Scope.top : Scope :=
  ⟨0, false⟩

/-- The scope of the members of a container. -/
def Scope.inner (s : Scope) : Scope :=
  { s with depth := s.depth + 1 }

/-- A decoder for values of a type. -/
abbrev Decoder (α : Type) := Scope → Json → Decoded α

namespace Decoder

variable {α β : Type}

/-- Applies a function to the decoded value. -/
def map (f : α → β) (d : Decoder α) : Decoder β :=
  fun scope j => f <$> d scope j

/-- A string. -/
def string : Decoder String
  | _, .string s => .ok s
  | _, _ => .unreadable

/-- A truth value. -/
def bool : Decoder Bool
  | _, .bool b => .ok b
  | _, _ => .unreadable

/-- A 16-bit natural number. -/
def word16 : Decoder UInt16
  | _, .natural n => if n < UInt16.size then .ok (UInt16.ofNat n) else .unreadable
  | _, _ => .unreadable

/-- The elements from index `i` on. -/
def elementsFrom (d : Decoder α) (scope : Scope) (i : Nat) : List Json → Decoded (List α)
  | [] => .ok []
  | j :: rest => List.cons <$> (d scope j).inside i <*> elementsFrom d scope (i + 1) rest

/-- A list. -/
def list (d : Decoder α) : Decoder (List α)
  | scope, .array elements => elementsFrom d scope.inner 0 elements
  | _, _ => .unreadable

/-- A set; repeated members count once. -/
def orderedSet [DecidableEq α] (d : Decoder α) : Decoder (OrderedSet α) :=
  (list d).map OrderedSet.ofList

/-- The members from index `i` on, with their keys. -/
def membersFrom (d : Decoder α) (scope : Scope) (i : Nat) :
    List (String × Json) → Decoded (List (String × α))
  | [] => .ok []
  | (key, j) :: rest =>
    List.cons <$> ((fun a => (key, a)) <$> (d scope j).inside i)
      <*> membersFrom d scope (i + 1) rest

/-- A table whose keys are made from strings. -/
def table {κ : Type} [DecidableEq κ] (key : String → κ) (d : Decoder α) : Decoder (Table κ α)
  | scope, .object members =>
    (fun es => Table.ofList (es.map fun e => (key e.1, e.2)))
      <$> membersFrom d scope.inner 0 members
  | _, _ => .unreadable

end Decoder

/-! ### Structures -/

/-- The fields of a structure as a document gives them. -/
structure Fields where
  scope : Scope
  /-- The value of a field and its index among the members. -/
  find? : String → Option (Nat × Json)
  /-- The number of members. -/
  size : Nat

namespace Fields

variable {α : Type}

/-- A field that must be there. -/
def required (fields : Fields) (name : String) (d : Decoder α) : Decoded α :=
  match fields.find? name with
  | none => .unreadableAt fields.size
  | some (i, j) => (d fields.scope j).inside i

/-- A field with a value for its absence. -/
def defaulted (fields : Fields) (name : String) (absent : α) (d : Decoder α) : Decoded α :=
  match fields.find? name with
  | none => .ok absent
  | some (i, j) => (d fields.scope j).inside i

/-- A field that may be absent or null. -/
def optional (fields : Fields) (name : String) (d : Decoder α) : Decoded (Option α) :=
  match fields.find? name with
  | none => .ok none
  | some (_, .null) => .ok none
  | some (i, j) => some <$> (d fields.scope j).inside i

end Fields

/-- The first member with a key, with its index; indices count from `i`. -/
def findMember (name : String) (i : Nat) : List (String × Json) → Option (Nat × Json)
  | [] => none
  | (key, j) :: rest => if key = name then some (i, j) else findMember name (i + 1) rest

/-- The index of the first member that repeats a known key; indices count from `i`. -/
def findRepeated (names : List String) (i : Nat) : List String → List String → Option Nat
  | _, [] => none
  | seen, key :: rest =>
    if names.contains key && seen.contains key then some i
    else findRepeated names (i + 1) (key :: seen) rest

/-- The element that an array gives to a field, with its index. -/
def findElement (names : List String) (elements : List Json) (name : String) :
    Option (Nat × Json) :=
  match names.idxOf? name with
  | none => none
  | some i => elements[i]?.map fun j => (i, j)

/-- Decodes a structure with the given fields, in declaration order. -/
def structured {α : Type} (names : List String) (body : Fields → Decoded α) : Decoder α
  | scope, .object members =>
    let decoded := body ⟨scope.inner, fun name => findMember name 0 members, members.length⟩
    match findRepeated names 0 [] (members.map Prod.fst) with
    | none => decoded
    | some i => (fun a _ => a) <$> decoded <*> (.unreadableAt i : Decoded Unit)
  | scope, .array elements =>
    let decoded := body ⟨scope.inner, findElement names elements, elements.length⟩
    if elements.length ≤ names.length then decoded
    else (fun a _ => a) <$> decoded <*> (.unreadableAt names.length : Decoded Unit)
  | _, _ => .unreadable

/-! ### Unions -/

/-- The variant that a tag names: by name, or within a stored value also by number. -/
def pickVariant {α : Type} (variants : List (String × Decoder α)) (scope : Scope) :
    Json → Option (Decoder α)
  | .string tag => variants.lookup tag
  | .natural n => if scope.stored then variants[n]?.map Prod.snd else none
  | _ => none

/-- Decodes the contents of a variant. Whatever fails in a union, the union as a whole fails. -/
def decodeVariant {α : Type} (variants : List (String × Decoder α)) (scope : Scope)
    (tag contents : Json) : Decoded α :=
  match pickVariant variants scope tag with
  | none => .unreadable
  | some d =>
    match d { scope with stored := true } contents with
    | .ok a => .ok a
    | .fault _ => .unreadable

/-- Decodes a union of named variants. -/
def union {α : Type} (variants : List (String × Decoder α)) : Decoder α := fun scope j =>
  if !scope.stored && !j.isStorable scope.depth then .unreadable
  else match j with
    | .object members =>
      match members.filter fun m => m.1 == "type" with
      | [(_, tag)] =>
        decodeVariant variants scope tag (.object (members.filter fun m => m.1 != "type"))
      | _ => .unreadable
    | .array (tag :: rest) => decodeVariant variants scope tag (.array rest)
    | _ => .unreadable

/-! ### Documents -/

/-- Decodes a value without regard to the text it was read from. -/
def Decoder.value {α : Type} (d : Decoder α) (j : Json) : Except DecodeError α :=
  match d .top j with
  | .ok a => .ok a
  | .fault f => .error f.cause

/-- Decodes a document. A fault of the contents counts if it comes before the fault of the text. -/
def Decoder.document {α : Type} (d : Decoder α) (doc : Document) : Except DecodeError α :=
  match d .top doc.value, doc.ending with
  | .ok a, .clean => .ok a
  | .ok _, _ => .error .unreadable
  | .fault f, .broken p => .error (if f.position.before p then f.cause else .unreadable)
  | .fault f, _ => .error f.cause

/-- Reads a text and decodes it. -/
def Decoder.text {α : Type} (d : Decoder α) (text : String) : Except DecodeError α :=
  d.document (Document.read text.toList)

end SdkLayout.Json
