import Mathlib
import SdkLayout.Name
import SdkLayout.Proofs.LetterCases

/-!
# Snake case is a canonical form

An ASCII identifier and its snake case have the same words but for case (`splitWords_snakeCase`).
Lower case takes away every boundary that was there between upper and lower case, and the
underscores put it back: words in lower case have neither boundaries nor separators inside, so that
they are found again where they were joined (`splitWords_joinWith`).

As every casing puts words into a case of its own, no casing tells an identifier from its snake
case, and the snake case of an identifier, which names its file, determines all others
(`write_snake_canonical`). The upper case of words does not have this property: `v2x` is one word,
but `V2X` are two.
-/

namespace SdkLayout

namespace Text

/-- A text of ASCII characters. -/
def Ascii (cs : List Char) : Prop :=
  ∀ c ∈ cs, isAscii c = true

theorem ascii_cons {c : Char} {cs : List Char} :
    Ascii (c :: cs) ↔ isAscii c = true ∧ Ascii cs :=
  List.forall_mem_cons

/-! ### The case of ASCII -/

theorem isAscii_toLower {c : Char} (h : isAscii c = true) : isAscii c.toLower = true :=
  forall_ascii (P := fun c => isAscii c.toLower = true) (by decide +kernel) c h

theorem isSeparator_toLower {c : Char} (h : isAscii c = true) :
    isSeparator c.toLower = isSeparator c :=
  forall_ascii (P := fun c => isSeparator c.toLower = isSeparator c) (by decide +kernel) c h

theorem isUpper_toLower {c : Char} (h : isAscii c = true) : isUpper c.toLower = false := by
  rw [isUpper, if_pos (isAscii_toLower h), Char.isUpper_toLower_eq_false]

theorem lowerChar_of_ascii {c : Char} (h : isAscii c = true) : lowerChar c = [c.toLower] := if_pos h

theorem upperChar_of_ascii {c : Char} (h : isAscii c = true) : upperChar c = [c.toUpper] := if_pos h

section Words

variable {cs : List Char} (ascii : Ascii cs)

include ascii

theorem flatMap_lowerChar : cs.flatMap lowerChar = cs.map Char.toLower := by
  rw [← List.flatMap_pure_eq_map]
  exact List.flatMap_congr fun c hc => lowerChar_of_ascii (ascii c hc)

/-- No ASCII text has a sigma, so that its lower case is that of its characters. -/
theorem lower_of_ascii : lower cs = cs.map Char.toLower := by
  have all : ∀ before, lowerAfter before cs = cs.flatMap lowerChar := by
    induction cs with
    | nil => exact fun _ => rfl
    | cons c rest ih =>
      obtain ⟨hc, hrest⟩ := ascii_cons.1 ascii
      have plain : c ≠ 'Σ' := by
        rintro rfl
        exact absurd hc (by decide)
      intro before
      rw [lowerAfter, lowerBetween_of_ne_sigma plain, ih hrest, List.flatMap_cons]
  rw [lower, all, flatMap_lowerChar ascii]

theorem upper_of_ascii : upper cs = cs.map Char.toUpper := by
  rw [upper, ← List.flatMap_pure_eq_map]
  exact List.flatMap_congr fun c hc => upperChar_of_ascii (ascii c hc)

theorem ascii_lower : Ascii (lower cs) := by
  rw [lower_of_ascii ascii]
  intro d hd
  obtain ⟨c, hc, rfl⟩ := List.mem_map.1 hd
  exact isAscii_toLower (ascii c hc)

/-! Whatever is done to the case of a word can be done to its lower case. -/

theorem lower_lower : lower (lower cs) = lower cs := by
  rw [lower_of_ascii (ascii_lower ascii), lower_of_ascii ascii, List.map_map]
  exact List.map_congr_left fun c _ => c.toLower_toLower_eq_toLower

theorem upper_lower : upper (lower cs) = upper cs := by
  rw [upper_of_ascii (ascii_lower ascii), lower_of_ascii ascii, upper_of_ascii ascii, List.map_map]
  exact List.map_congr_left fun c _ => c.toUpper_toLower_eq_toUpper

theorem capitalize_lower : capitalize (lower cs) = capitalize cs := by
  cases cs with
  | nil => rfl
  | cons c rest =>
    obtain ⟨hc, hrest⟩ := ascii_cons.1 ascii
    have again := lower_lower hrest
    have small := ascii_lower hrest
    rw [lower_of_ascii hrest] at again small
    rw [lower_of_ascii ascii, List.map_cons, capitalize, capitalize,
      upperChar_of_ascii (isAscii_toLower hc), upperChar_of_ascii hc,
      Char.toUpper_toLower_eq_toUpper, flatMap_lowerChar small, flatMap_lowerChar hrest,
      ← lower_of_ascii small, again]

end Words

/-! ### Words that are joined -/

/-- A word in lower case: it has neither separators nor upper case inside. -/
structure IsSmall (word : List Char) : Prop where
  nonempty : word ≠ []
  whole : ∀ c ∈ word, isSeparator c = false ∧ isUpper c = false

/-- A word in lower case is found where it was, if it ends the text or a separator follows it. -/
theorem splitWords_append {word : List Char} (small : IsSmall word) {rest : List Char}
    (ends : ∀ d ∈ rest.head?, isSeparator d = true) :
    splitWords (word ++ rest) = word :: splitWords rest := by
  obtain ⟨ne, whole⟩ := small
  induction word with
  | nil => exact absurd rfl ne
  | cons c more ih =>
    obtain ⟨hc, hmore⟩ := List.forall_mem_cons.1 whole
    rw [List.cons_append, splitWords, if_neg (by simp [hc.1])]
    cases more with
    | nil =>
      -- Nothing follows that could join the word.
      have last : joinsNext c rest = false := by
        cases rest with
        | nil => rfl
        | cons d rest => simp [joinsNext, ends d rfl]
      rw [List.nil_append, if_neg (by simp [last])]
    | cons d more =>
      have joins : joinsNext c (d :: more ++ rest) = true := by
        obtain ⟨separator, upper⟩ := hmore d List.mem_cons_self
        simp [joinsNext, startsWord, separator, upper]
      rw [if_pos joins, ih (List.cons_ne_nil d more) hmore]
      rfl

/-- Words in lower case are found again where they were joined. -/
theorem splitWords_joinWith {words : List (List Char)} (small : ∀ w ∈ words, IsSmall w) :
    splitWords (joinWith ['_'] words) = words := by
  rw [joinWith]
  induction words with
  | nil => rfl
  | cons word rest ih =>
    obtain ⟨hword, hrest⟩ := List.forall_mem_cons.1 small
    -- Behind the first word comes an underscore, or nothing if it is the only one.
    cases rest with
    | nil =>
      have alone : splitWords (word ++ []) = [word] := splitWords_append hword nofun
      rw [List.append_nil] at alone
      rw [List.intercalate_singleton, alone]
    | cons next rest =>
      have underscore : isSeparator '_' = true := by decide
      rw [List.intercalate_cons_cons, List.append_assoc,
        splitWords_append hword (by simp [underscore]), List.singleton_append, splitWords,
        if_pos underscore, ih hrest]

/-! ### Snake case -/

section SnakeCase

variable {cs : List Char} (ascii : Ascii cs)

include ascii

theorem ascii_of_mem_splitWords {word : List Char} (h : word ∈ splitWords cs) : Ascii word :=
  fun _ hc => ascii _ (mem_of_mem_splitWords h hc).1

/-- The lower case of a word is a word in lower case. -/
theorem isSmall_lower {word : List Char} (h : word ∈ splitWords cs) : IsSmall (lower word) := by
  rw [lower_of_ascii (ascii_of_mem_splitWords ascii h)]
  refine ⟨?_, fun d hd => ?_⟩
  · rw [ne_eq, List.map_eq_nil_iff]
    exact ne_nil_of_mem_splitWords h
  · obtain ⟨c, hc, rfl⟩ := List.mem_map.1 hd
    obtain ⟨there, separator⟩ := mem_of_mem_splitWords h hc
    have own := ascii c there
    exact ⟨(isSeparator_toLower own).trans separator, isUpper_toLower own⟩

/-- **Snake case keeps the words**, in lower case. -/
theorem splitWords_snakeCase : splitWords (snakeCase cs) = (splitWords cs).map lower := by
  refine splitWords_joinWith fun w hw => ?_
  obtain ⟨word, hword, rfl⟩ := List.mem_map.1 hw
  exact isSmall_lower ascii hword

/-- Whatever is made of words in a case of its own can be made of the words of the snake case. -/
theorem map_splitWords_snakeCase {write : List Char → List Char}
    (caseless : ∀ {word}, Ascii word → write (lower word) = write word) :
    (splitWords (snakeCase cs)).map write = (splitWords cs).map write := by
  rw [splitWords_snakeCase ascii, List.map_map]
  exact List.map_congr_left fun word h => caseless (ascii_of_mem_splitWords ascii h)

theorem snakeCase_snakeCase : snakeCase (snakeCase cs) = snakeCase cs := by
  rw [snakeCase, map_splitWords_snakeCase ascii lower_lower, ← snakeCase]

theorem screamingSnakeCase_snakeCase :
    screamingSnakeCase (snakeCase cs) = screamingSnakeCase cs := by
  rw [screamingSnakeCase, map_splitWords_snakeCase ascii upper_lower, ← screamingSnakeCase]

theorem pascalCase_snakeCase : pascalCase (snakeCase cs) = pascalCase cs := by
  rw [pascalCase, pascalCase, List.flatMap_def, List.flatMap_def,
    map_splitWords_snakeCase ascii capitalize_lower]

theorem camelCase_snakeCase : camelCase (snakeCase cs) = camelCase cs := by
  have others := map_splitWords_snakeCase ascii capitalize_lower
  rw [splitWords_snakeCase ascii] at others
  rw [camelCase, camelCase, splitWords_snakeCase ascii]
  cases words : splitWords cs with
  | nil => rfl
  | cons first rest =>
    have hfirst : Ascii first := ascii_of_mem_splitWords ascii (by simp [words])
    rw [words, List.map_cons, List.map_cons, List.map_cons] at others
    rw [List.map_cons, camelWords, camelWords, lower_lower hfirst, List.flatMap_def,
      List.flatMap_def, (List.cons.inj others).2]

end SnakeCase

end Text

theorem toList_write_snake (s : String) :
    (Casing.snake.write s).toList = Text.snakeCase s.toList := by
  rw [Casing.write, String.toList_ofList]

/-- No casing tells an identifier from its snake case. -/
theorem Casing.write_write_snake {s : String} (ascii : Text.Ascii s.toList) (casing : Casing) :
    casing.write (Casing.snake.write s) = casing.write s := by
  unfold Casing.write
  rw [← Casing.write, toList_write_snake]
  cases casing with
  | camel => rw [Text.camelCase_snakeCase ascii]
  | pascal => rw [Text.pascalCase_snakeCase ascii]
  | snake => rw [Text.snakeCase_snakeCase ascii]
  | screamingSnake => rw [Text.screamingSnakeCase_snakeCase ascii]

/-- **Snake case is a canonical form** of ASCII identifiers. Every casing of the snake case is that
of the identifier, so that two names with the same file also have the same exported symbol, camel
case and package. -/
theorem write_snake_canonical {s : String} (ascii : Text.Ascii s.toList) :
    (∀ casing : Casing, casing.write (Casing.snake.write s) = casing.write s) ∧
    ∀ t : String, Text.Ascii t.toList →
      (Name.ofIdentifier s).basename = (Name.ofIdentifier t).basename →
        (Name.ofIdentifier s).exported = (Name.ofIdentifier t).exported ∧
        (Name.ofIdentifier s).camel = (Name.ofIdentifier t).camel ∧
        (Name.ofIdentifier s).segment = (Name.ofIdentifier t).segment := by
  refine ⟨Casing.write_write_snake ascii, fun t ascii' file => ?_⟩
  have snake : Casing.snake.write s = Casing.snake.write t := file
  have same : ∀ casing : Casing, casing.write s = casing.write t := fun casing => by
    rw [← Casing.write_write_snake ascii, snake, Casing.write_write_snake ascii']
  have camel : (Name.ofIdentifier s).camel = (Name.ofIdentifier t).camel :=
    congrArg CasedName.ofPlain (same .camel)
  refine ⟨same .pascal, camel, ?_⟩
  rw [Name.segment, Name.segment, camel]

theorem write_snake_canonical_server :
    Text.Ascii "HTTPServer-v2".toList ∧ Text.Ascii "http.Server__V2".toList ∧
    (∀ casing : Casing,
      casing.write (Casing.snake.write "HTTPServer-v2") = casing.write "HTTPServer-v2") ∧
    (Name.ofIdentifier "HTTPServer-v2").basename = (Name.ofIdentifier "http.Server__V2").basename ∧
    (Name.ofIdentifier "HTTPServer-v2").exported = (Name.ofIdentifier "http.Server__V2").exported ∧
    (Name.ofIdentifier "HTTPServer-v2").camel = (Name.ofIdentifier "http.Server__V2").camel ∧
    (Name.ofIdentifier "HTTPServer-v2").segment =
      (Name.ofIdentifier "http.Server__V2").segment := by
  have ascii : Text.Ascii "HTTPServer-v2".toList := List.all_eq_true.1 (by decide +kernel)
  have ascii' : Text.Ascii "http.Server__V2".toList := List.all_eq_true.1 (by decide +kernel)
  have file : (Name.ofIdentifier "HTTPServer-v2").basename =
      (Name.ofIdentifier "http.Server__V2").basename := by decide +kernel
  obtain ⟨canonical, names⟩ := write_snake_canonical ascii
  exact ⟨ascii, ascii', canonical, file, names _ ascii' file⟩

/-- In screaming snake case a digit and the letter after it come apart. -/
example : Casing.snake.write (Casing.screamingSnake.write "v2x") ≠ Casing.snake.write "v2x" := by
  decide +kernel

end SdkLayout
