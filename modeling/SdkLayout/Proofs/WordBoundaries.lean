import SdkLayout.Text.Words

/-!
# Where words end

The words of an identifier can be told without the function that finds them (`IsSplit`). They have
characters and hold no separators, and one after the other they are the *letters* of the identifier,
its characters but for the separators. What is left is which letters go into one word, and that
depends on their place in the identifier alone: letters next to each other are in different words at
a boundary (`Boundary`), letters with separators between them always are.

**Letters are counted.** The same character may occur many times, so that a letter is known by how
many letters come before it, in the identifier as in its words (`wordIndex`, `Apart`). To put a
character in front of an identifier moves all words behind it by the same amount
(`wordIndex_splitWords_succ`), and what comes before two letters has no part in whether they are
apart (`wordIndex_splitWords_append`).

These properties leave nothing open: `splitWords` has them, and no other list of words does
(`splitWords_eq_iff`).
-/

namespace SdkLayout.Text

/-! ### Letters -/

/-- The characters of an identifier that belong to words. -/
def letters (cs : List Char) : List Char :=
  cs.filter fun c => !isSeparator c

@[simp] theorem letters_nil : letters [] = [] := rfl

theorem letters_cons_of_separator {c : Char} (h : isSeparator c = true) (cs : List Char) :
    letters (c :: cs) = letters cs :=
  List.filter_cons_of_neg (by simp [h])

theorem letters_cons_of_letter {c : Char} (h : isSeparator c = false) (cs : List Char) :
    letters (c :: cs) = c :: letters cs :=
  List.filter_cons_of_pos (by simp [h])

/-- A letter that has another one behind it, and what stands between the two. -/
theorem exists_adjacent_letters {cs : List Char} {n : Nat} (h : n + 1 < (letters cs).length) :
    ∃ before c gap d after, cs = before ++ c :: (gap ++ d :: after) ∧ isSeparator c = false ∧
      isSeparator d = false ∧ (∀ g ∈ gap, isSeparator g = true) ∧ (letters before).length = n := by
  induction cs generalizing n with
  | nil => exact absurd h (Nat.not_lt_zero _)
  | cons x rest ih =>
    by_cases hx : isSeparator x = true
    · rw [letters_cons_of_separator hx] at h
      obtain ⟨before, c, gap, d, after, rfl, hc, hd, hgap, count⟩ := ih h
      refine ⟨x :: before, c, gap, d, after, rfl, hc, hd, hgap, ?_⟩
      rwa [letters_cons_of_separator hx]
    · rw [Bool.not_eq_true] at hx
      rw [letters_cons_of_letter hx, List.length_cons, Nat.add_lt_add_iff_right] at h
      cases n with
      | zero =>
        -- The character itself is the letter; the other one is the first of those behind it.
        obtain ⟨d, others, first⟩ := List.exists_cons_of_length_pos h
        obtain ⟨gap, after, rfl, hgap, hd, -⟩ := List.filter_eq_cons_iff.1 first
        exact ⟨[], x, gap, d, after, rfl, hx, by simpa using hd, by simpa using hgap, rfl⟩
      | succ n =>
        obtain ⟨before, c, gap, d, after, rfl, hc, hd, hgap, count⟩ := ih h
        refine ⟨x :: before, c, gap, d, after, rfl, hc, hd, hgap, ?_⟩
        rw [letters_cons_of_letter hx, List.length_cons, count]

/-! ### The word of a letter -/

/-- The number of the word that the `n`-th letter of some words is in, all counted from zero. -/
def wordIndex : List (List Char) → Nat → Nat
  | [], _ => 0
  | word :: words, n => if n < word.length then 0 else wordIndex words (n - word.length) + 1

section WordIndex

variable {word : List Char} {words : List (List Char)}

theorem wordIndex_cons_of_lt {n : Nat} (h : n < word.length) : wordIndex (word :: words) n = 0 :=
  if_pos h

theorem wordIndex_cons_add (word : List Char) (n : Nat) :
    wordIndex (word :: words) (word.length + n) = wordIndex words n + 1 := by
  rw [wordIndex, if_neg (Nat.not_lt.2 (Nat.le_add_right ..)), Nat.add_sub_cancel_left]

theorem wordIndex_zero (nonempty : ∀ word ∈ words, word ≠ []) : wordIndex words 0 = 0 := by
  cases words with
  | nil => rfl
  | cons word words =>
    exact wordIndex_cons_of_lt (List.length_pos_iff.2 (nonempty word List.mem_cons_self))

theorem wordIndex_growFirst (ne : words ≠ []) (c : Char) (n : Nat) :
    wordIndex (growFirst c words) (n + 1) = wordIndex words n := by
  cases words with
  | nil => exact absurd rfl ne
  | cons word words =>
    simp only [growFirst, wordIndex, List.length_cons, Nat.add_lt_add_iff_right,
      Nat.add_sub_add_right]

end WordIndex

/-! ### Boundaries -/

/-- A boundary lies between `c` and `d`, with `after` behind them: `d` is an upper case letter, and
`c` is a lower case letter, a digit, or an upper case letter too if a lower case letter follows
`d`. -/
def Boundary (c d : Char) (after : List Char) : Prop :=
  isUpper d = true ∧ (isLower c = true ∨ c.isDigit = true ∨
    isUpper c = true ∧ ∃ e ∈ after.head?, isLower e = true)

theorem joinsNext_eq_false_iff {c d : Char} {after : List Char} (hd : isSeparator d = false) :
    joinsNext c (d :: after) = false ↔ Boundary c d after := by
  have ends : joinsNext c (d :: after) = false ↔ startsWord c d after.head? = true := by
    simp [joinsNext, hd]
  rw [ends]
  simp only [startsWord, Boundary, Bool.and_eq_true, Bool.or_eq_true, or_assoc, Option.any_eq_true,
    Option.mem_def]

theorem joinsNext_of_separator {c g : Char} {rest : List Char} (hg : isSeparator g = true) :
    joinsNext c (g :: rest) = false := by
  simp [joinsNext, hg]

/-- What a letter joins has a word. -/
theorem splitWords_ne_nil {c : Char} {rest : List Char} (joins : joinsNext c rest = true) :
    splitWords rest ≠ [] := by
  intro none
  have lost := flatten_splitWords rest
  rw [none, List.flatten_nil, eq_comm, List.filter_eq_nil_iff] at lost
  cases rest with
  | nil => exact absurd joins Bool.false_ne_true
  | cons d rest =>
    have letter : isSeparator d = false := by
      simp only [joinsNext, Bool.and_eq_true, Bool.not_eq_true'] at joins
      exact joins.1
    exact lost d List.mem_cons_self (by simp [letter])

/-! ### Splits -/

/-- Whether the letter that follows `before` and the next letter are in different words. -/
def Apart (words : List (List Char)) (before : List Char) : Prop :=
  wordIndex words (letters before).length ≠ wordIndex words ((letters before).length + 1)

/-- What an identifier is split into. -/
structure IsSplit (cs : List Char) (words : List (List Char)) : Prop where
  nonempty : ∀ word ∈ words, word ≠ []
  separatorFree : ∀ word ∈ words, ∀ c ∈ word, isSeparator c = false
  /-- Nothing is lost but the separators. -/
  flatten : words.flatten = letters cs
  /-- Letters next to each other are in different words exactly at a boundary. -/
  apart_iff : ∀ before c d after, cs = before ++ c :: d :: after → isSeparator c = false →
    isSeparator d = false → (Apart words before ↔ Boundary c d after)
  /-- Letters with separators between them are in different words. -/
  apart : ∀ before c gap d after, cs = before ++ c :: (gap ++ d :: after) →
    isSeparator c = false → isSeparator d = false → (∀ g ∈ gap, isSeparator g = true) →
    gap ≠ [] → Apart words before

/-! ### The words that are found -/

/-- A letter in front of an identifier is part of its first word or a word of its own. -/
theorem wordIndex_splitWords_succ {c : Char} (hc : isSeparator c = false) (rest : List Char)
    (n : Nat) : wordIndex (splitWords (c :: rest)) (n + 1) =
      wordIndex (splitWords rest) n + if joinsNext c rest = true then 0 else 1 := by
  rw [splitWords, if_neg (by simp [hc])]
  by_cases joins : joinsNext c rest = true
  · rw [if_pos joins, if_pos joins, wordIndex_growFirst (splitWords_ne_nil joins), Nat.add_zero]
  · rw [if_neg joins, if_neg joins, Nat.add_comm n 1]
    exact wordIndex_cons_add [c] n

/-- Which letters share a word is decided without what comes before them. -/
theorem wordIndex_splitWords_append (before tail : List Char) (m n : Nat) :
    wordIndex (splitWords (before ++ tail)) ((letters before).length + m) =
        wordIndex (splitWords (before ++ tail)) ((letters before).length + n) ↔
      wordIndex (splitWords tail) m = wordIndex (splitWords tail) n := by
  -- A separator in front changes nothing, a letter moves both sides alike.
  induction before with
  | nil => rw [letters_nil, List.length_nil, Nat.zero_add, Nat.zero_add, List.nil_append]
  | cons b before ih =>
    by_cases hb : isSeparator b = true
    · rw [letters_cons_of_separator hb, List.cons_append, splitWords, if_pos hb]
      exact ih
    · rw [Bool.not_eq_true] at hb
      rw [letters_cons_of_letter hb, List.cons_append, List.length_cons, Nat.succ_add,
        Nat.succ_add, wordIndex_splitWords_succ hb, wordIndex_splitWords_succ hb,
        Nat.add_right_cancel_iff]
      exact ih

/-- A letter is in another word than the next one if it does not join what follows it. -/
theorem apart_splitWords_iff {c : Char} (hc : isSeparator c = false) (before tail : List Char) :
    Apart (splitWords (before ++ c :: tail)) before ↔ joinsNext c tail = false := by
  have first : ∀ cs, wordIndex (splitWords cs) 0 = 0 :=
    fun cs => wordIndex_zero fun _ => ne_nil_of_mem_splitWords
  have here := wordIndex_splitWords_append before (c :: tail) 0 1
  rw [Nat.add_zero, first, wordIndex_splitWords_succ hc, first, Nat.zero_add] at here
  rw [Apart, ne_eq, here]
  cases joinsNext c tail <;> decide

/-- **The words that are found split the identifier.** -/
theorem isSplit_splitWords (cs : List Char) : IsSplit cs (splitWords cs) where
  nonempty _ := ne_nil_of_mem_splitWords
  separatorFree _ hword _ hc := (mem_of_mem_splitWords hword hc).2
  flatten := flatten_splitWords cs
  apart_iff before c d after whole hc hd := by
    rw [whole, apart_splitWords_iff hc, joinsNext_eq_false_iff hd]
  apart before c gap d after whole hc _ hgap ne := by
    obtain ⟨g, gap, rfl⟩ := List.exists_cons_of_ne_nil ne
    rw [whole, apart_splitWords_iff hc]
    exact joinsNext_of_separator (hgap g List.mem_cons_self)

/-! ### No other words -/

section Unique

variable {words words' : List (List Char)}

/-- A first word is no longer than another one if letters that share it also share a word there. -/
theorem length_le_of_shared {word word' : List Char} (ne : word' ≠ [])
    (shared : ∀ n, n + 1 < (word :: words).flatten.length →
      wordIndex (word :: words) n = wordIndex (word :: words) (n + 1) →
        wordIndex (word' :: words') n = wordIndex (word' :: words') (n + 1)) :
    word.length ≤ word'.length := by
  refine Nat.le_of_not_lt fun shorter => ?_
  -- The last letter of the shorter word and the next one are both in the longer word.
  obtain ⟨n, last⟩ := Nat.exists_eq_add_one.2 (List.length_pos_iff.2 ne)
  rw [last] at shorter
  have inside : n + 1 < (word :: words).flatten.length := by
    rw [List.flatten_cons, List.length_append]
    omega
  have same := shared n inside <| by
    rw [wordIndex_cons_of_lt shorter, wordIndex_cons_of_lt (Nat.lt_of_succ_lt shorter)]
  rw [wordIndex_cons_of_lt (by omega), ← last, ← Nat.add_zero word'.length,
    wordIndex_cons_add] at same
  exact absurd same (Nat.zero_ne_add_one _)

/-- Words are known from their letters and from which of these are in one word. -/
theorem eq_of_shared (nonempty : ∀ w ∈ words, w ≠ []) (nonempty' : ∀ w ∈ words', w ≠ [])
    (text : words.flatten = words'.flatten)
    (shared : ∀ n, n + 1 < words.flatten.length →
      (wordIndex words n = wordIndex words (n + 1) ↔
        wordIndex words' n = wordIndex words' (n + 1))) :
    words = words' := by
  induction words generalizing words' with
  | nil =>
    rw [List.flatten_nil, eq_comm, List.flatten_eq_nil_iff] at text
    refine (List.eq_nil_iff_forall_not_mem.2 fun w hw => ?_).symm
    exact nonempty' w hw (text w hw)
  | cons word words ih =>
    cases words' with
    | nil =>
      rw [List.flatten_nil, List.flatten_eq_nil_iff] at text
      exact absurd (text word List.mem_cons_self) (nonempty word List.mem_cons_self)
    | cons word' words' =>
      obtain ⟨ne, others⟩ := List.forall_mem_cons.1 nonempty
      obtain ⟨ne', others'⟩ := List.forall_mem_cons.1 nonempty'
      -- The first words end where letters are apart for the first time, so they end together.
      have length : word.length = word'.length :=
        Nat.le_antisymm (length_le_of_shared ne' fun n hn => (shared n hn).1)
          (length_le_of_shared ne fun n hn => (shared n (text ▸ hn)).2)
      rw [List.flatten_cons, List.flatten_cons] at text
      obtain ⟨rfl, rest⟩ := List.append_inj text length
      rw [ih others others' rest fun n hn => ?_]
      -- What is left of the words are the letters behind the first word.
      have behind := shared (word.length + n) <| by
        rw [List.flatten_cons, List.length_append]
        omega
      simpa only [Nat.add_assoc, wordIndex_cons_add, Nat.add_right_cancel_iff] using behind

variable {cs : List Char}

/-- An identifier is split in one way only. -/
theorem IsSplit.unique (h : IsSplit cs words) (h' : IsSplit cs words') : words = words' := by
  refine eq_of_shared h.nonempty h'.nonempty (h.flatten.trans h'.flatten.symm) fun n hn => ?_
  rw [h.flatten] at hn
  obtain ⟨before, c, gap, d, after, whole, hc, hd, hgap, rfl⟩ := exists_adjacent_letters hn
  have same : Apart words before ↔ Apart words' before := by
    by_cases adjacent : gap = []
    · rw [adjacent, List.nil_append] at whole
      rw [h.apart_iff before c d after whole hc hd, h'.apart_iff before c d after whole hc hd]
    · have apart := h.apart before c gap d after whole hc hd hgap adjacent
      have apart' := h'.apart before c gap d after whole hc hd hgap adjacent
      exact iff_of_true apart apart'
  exact Decidable.not_iff_not.1 same

end Unique

/-- **Word splitting loses nothing and cuts exactly at boundaries.** The words of an identifier are
what splits it, and nothing else splits it. -/
theorem splitWords_eq_iff {cs : List Char} {words : List (List Char)} :
    splitWords cs = words ↔ IsSplit cs words := by
  constructor
  · rintro rfl
    exact isSplit_splitWords cs
  · exact (isSplit_splitWords cs).unique

/-- Separators repeat and stand at the ends; a run of capitals ends before its last letter. -/
example : splitWords "__getHTTPServer--v2X. ".toList =
    ["get".toList, "HTTP".toList, "Server".toList, "v2".toList, "X".toList] := by
  decide +kernel

end SdkLayout.Text
