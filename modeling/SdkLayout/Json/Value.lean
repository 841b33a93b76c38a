import SdkLayout.Json.Number

/-!
# JSON values

A JSON value keeps what a document says and no more than that: the members of an object stay in
the order of the document, repeated keys included, and numbers stay as they are written.

Some documents escape half of a surrogate pair in a string. Such a string is grammatical but has
no text, so nothing can be made of it or of an object with such a key, except to pass it over.
Both are `Json.textless`.
-/

namespace SdkLayout

/-- A JSON value. -/
inductive Json where
  | null
  | bool (value : Bool)
  /-- A number written as a bare run of digits. -/
  | natural (value : Nat)
  /-- Any other number. -/
  | number (literal : Json.Literal)
  | string (value : String)
  | array (elements : List Json)
  /-- The members in the order of the document. -/
  | object (members : List (String × Json))
  /-- A string without text, or an object with such a key. -/
  | textless

namespace Json

/-! ### Storing values of unknown type -/

mutual

/-- Whether containers nest at most `limit` deep. -/
def nestsWithin (limit : Nat) : Json → Bool
  | .array elements => decide (0 < limit) && nestWithin (limit - 1) elements
  | .object members => decide (0 < limit) && membersNestWithin (limit - 1) members
  | _ => true

/-- `nestsWithin` for every element. -/
def nestWithin (limit : Nat) : List Json → Bool
  | [] => true
  | j :: rest => nestsWithin limit j && nestWithin limit rest

/-- `nestsWithin` for every member. -/
def membersNestWithin (limit : Nat) : List (String × Json) → Bool
  | [] => true
  | (_, j) :: rest => nestsWithin limit j && membersNestWithin limit rest

end

mutual

/-- Whether every string has a text and every number is a finite double. -/
def isPlain : Json → Bool
  | .natural n => isFiniteNatural n
  | .number l => l.isFinite
  | .array elements => arePlain elements
  | .object members => membersArePlain members
  | .textless => false
  | _ => true

/-- `isPlain` for every element. -/
def arePlain : List Json → Bool
  | [] => true
  | j :: rest => isPlain j && arePlain rest

/-- `isPlain` for every member. -/
def membersArePlain : List (String × Json) → Bool
  | [] => true
  | (_, j) :: rest => isPlain j && membersArePlain rest

end

/-- How deep containers may nest in a value that is stored before its type is known. -/
def depthLimit : Nat := 127

/-- Whether a value below `depth` enclosing containers can be stored before its type is known. -/
def isStorable (depth : Nat) (j : Json) : Bool :=
  nestsWithin (depthLimit - depth) j && isPlain j

/-! ### Building values -/

/-- An array of strings. -/
def strings (items : List String) : Json :=
  .array (items.map .string)

/-- The value of something optional: null when it is absent. -/
def orNull (value : Option Json) : Json :=
  value.getD .null

/-- A member that is always written. -/
def member (key : String) (value : Json) : List (String × Json) :=
  [(key, value)]

/-- A member that is written only if there is something to write. -/
def optionalMember (key : String) (value : Option Json) : List (String × Json) :=
  match value with
  | none => []
  | some v => [(key, v)]

@[simp] theorem optionalMember_none (key : String) : optionalMember key none = [] := rfl

@[simp] theorem optionalMember_some (key : String) (v : Json) :
    optionalMember key (some v) = [(key, v)] := rfl

@[simp] theorem member_eq (key : String) (v : Json) : member key v = [(key, v)] := rfl

end Json

end SdkLayout
