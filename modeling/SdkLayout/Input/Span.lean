import SdkLayout.Text.Blank

/-!
# Where a value stands in a manifest

A complaint about a setting points at its value: the text after the equals sign, on the first line
that starts with the key. The line is searched in the text itself, so a line of that form counts
even where it is part of something else. Positions are counted in bytes of UTF-8.
-/

namespace SdkLayout

/-- A piece of a text, in bytes. -/
structure Span where
  offset : Nat
  length : Nat
  deriving DecidableEq, Repr

namespace Span

/-- The size of a text in bytes. -/
def byteSize : List Char → Nat
  | [] => 0
  | c :: rest => c.utf8Size + byteSize rest

@[simp] theorem byteSize_nil : byteSize [] = 0 := rfl

@[simp] theorem byteSize_cons (c : Char) (cs : List Char) :
    byteSize (c :: cs) = c.utf8Size + byteSize cs := rfl

@[simp] theorem byteSize_append (cs ds : List Char) :
    byteSize (cs ++ ds) = byteSize cs + byteSize ds := by
  induction cs with
  | nil => rw [List.nil_append, byteSize_nil, Nat.zero_add]
  | cons c cs ih => rw [List.cons_append, byteSize_cons, byteSize_cons, ih, Nat.add_assoc]

/-- The lines of a text, each with the line feed that ends it. -/
def lines : List Char → List (List Char)
  | [] => []
  | c :: rest =>
    match lines rest with
    | [] => [[c]]
    | line :: more => if c = '\n' then [c] :: line :: more else (c :: line) :: more

/-- The lines of a text make up the text. -/
theorem flatten_lines (cs : List Char) : (lines cs).flatten = cs := by
  induction cs with
  | nil => rfl
  | cons c rest ih =>
    unfold lines
    split
    · next h =>
      rw [h] at ih
      simp [← ih]
    · next line more h =>
      rw [h] at ih
      split <;> simp [← ih]

/-- What follows a text that another one starts with. -/
def afterPrefix? (start text : List Char) : Option (List Char) :=
  if start.isPrefixOf text then some (text.drop start.length) else none

theorem afterPrefix?_eq_some_iff {start text rest : List Char} :
    afterPrefix? start text = some rest ↔ text = start ++ rest := by
  unfold afterPrefix?
  constructor
  · intro h
    split at h
    · next starts =>
      obtain ⟨more, rfl⟩ := List.isPrefixOf_iff_prefix.1 starts
      rw [List.drop_left] at h
      rw [Option.some.inj h]
    · exact absurd h nofun
  · rintro rfl
    rw [if_pos (List.isPrefixOf_iff_prefix.2 (List.prefix_append ..)), List.drop_left]

/-- The value that a line assigns to a key. The line starts at `lineStart` in the text. -/
def ofLine? (key : List Char) (lineStart : Nat) (line : List Char) : Option Span :=
  let trimmed := Text.trimStart line
  let indent := byteSize line - byteSize trimmed
  (afterPrefix? key trimmed).bind fun rest =>
    let assignment := Text.trimStart rest
    (afterPrefix? ['='] assignment).map fun value =>
      -- All that stands before the value, piece by piece: the lines before, the white space at the
      -- beginning of the line, the key, white space, the equals sign, white space.
      { offset := lineStart + indent + byteSize key + (byteSize rest - byteSize assignment) + 1 +
          (byteSize value - byteSize (Text.trimStart value))
        length := byteSize (Text.trim value) }

/-- The value of a key in the first of some lines that assigns one. The first line starts at
`lineStart`. -/
def ofLines? (key : List Char) (lineStart : Nat) : List (List Char) → Option Span
  | [] => none
  | line :: rest =>
    match ofLine? key lineStart line with
    | some s => some s
    | none => ofLines? key (lineStart + byteSize line) rest

/-- The value of a key in a text. -/
def ofValue? (text key : String) : Option Span :=
  ofLines? key.toList 0 (lines text.toList)

end Span

end SdkLayout
