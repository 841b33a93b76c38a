import SdkLayout.Text.Blank
import SdkLayout.Text.LetterCase

/-!
# Words of an identifier

An identifier such as `getUserByID` or `user_profile` is a run of words. Words end at separators,
which belong to no word, and at *boundaries*, which lie between two characters that both belong to
one: before an upper case letter that follows a lower case letter or a digit (`get|User`), and
before the last letter of a run of capitals when a lower case letter follows it (`HTTP|Server`).

`splitWords` decides for each character whether it starts a word of its own or joins the word that
follows it, so the words come out in order and nothing but separators is lost.
-/

namespace SdkLayout.Text

/-- The characters that separate words. -/
def isSeparator (c : Char) : Bool :=
  c == '_' || c == '-' || c == '.' || isBlank c

/-- Whether a word starts at `c`, right after `previous`, when `next` comes after it. -/
def startsWord (previous c : Char) (next : Option Char) : Bool :=
  isUpper c &&
    (isLower previous || previous.isDigit || (isUpper previous && next.any isLower))

/-- Whether `c` belongs to the same word as the text that follows it. -/
def joinsNext (c : Char) : List Char → Bool
  | [] => false
  | d :: rest => !isSeparator d && !startsWord c d rest.head?

/-- Puts a character in front of the first word. -/
def growFirst (c : Char) : List (List Char) → List (List Char)
  | [] => [[c]]
  | word :: words => (c :: word) :: words

/-- The words of an identifier, in order. -/
def splitWords : List Char → List (List Char)
  | [] => []
  | c :: rest =>
    if isSeparator c then splitWords rest
    else if joinsNext c rest then growFirst c (splitWords rest)
    else [c] :: splitWords rest

@[simp] theorem splitWords_nil : splitWords [] = [] := rfl

/-- Words have at least one character. -/
theorem ne_nil_of_mem_splitWords {cs word : List Char} (h : word ∈ splitWords cs) : word ≠ [] := by
  fun_induction splitWords cs with
  | case1 => exact absurd h List.not_mem_nil
  | case2 c rest separates ih => exact ih h
  | case3 c rest separates joins ih =>
    -- The character stands in front of the first word, or is the only one.
    cases words : splitWords rest with
    | nil =>
      rw [words, growFirst, List.mem_singleton] at h
      exact h ▸ List.cons_ne_nil c []
    | cons first others =>
      rw [words, growFirst, List.mem_cons] at h
      rcases h with rfl | other
      · exact List.cons_ne_nil c first
      · exact ih (words ▸ List.mem_cons_of_mem first other)
  | case4 c rest separates parts ih =>
    rcases List.mem_cons.1 h with rfl | later
    · exact List.cons_ne_nil c []
    · exact ih later

/-- The words make up the identifier but for its separators. -/
theorem flatten_splitWords (cs : List Char) :
    (splitWords cs).flatten = cs.filter fun c => !isSeparator c := by
  fun_induction splitWords cs with
  | case1 => rfl
  | case2 c rest separates ih => rw [ih, List.filter_cons_of_neg (by simp [separates])]
  | case3 c rest separates joins ih =>
    rw [List.filter_cons_of_pos (by simp [separates]), ← ih]
    cases splitWords rest <;> rfl
  | case4 c rest separates parts ih =>
    rw [List.filter_cons_of_pos (by simp [separates]), ← ih]
    rfl

/-- The characters of words are those of the identifier that are no separators. -/
theorem mem_of_mem_splitWords {cs word : List Char} (h : word ∈ splitWords cs) {c : Char}
    (hc : c ∈ word) : c ∈ cs ∧ isSeparator c = false := by
  have there : c ∈ (splitWords cs).flatten := List.mem_flatten_of_mem h hc
  rw [flatten_splitWords, List.mem_filter, Bool.not_eq_true'] at there
  exact there

end SdkLayout.Text
