import Mathlib
import SdkLayout.Input.Span

/-!
# The span of a value

A complaint about a setting points at its value in the text of the manifest. The span is found by
looking at the text line by line, and it is exact (`Span.ofValue?_exact`): there is none if and only
if no line assigns a value to the key, and otherwise it cuts the value of the first such line out of
the text, between characters and without the white space around it.

**Lines.** A line is known by what stands before and after it in the text (`Span.IsLine`), not by
how the text is taken apart. What a text is taken apart into are its lines, in order
(`Span.isLine_of_lines`, `Span.IsLine.exists_lines_eq`). Only a line feed ends a line; a carriage
return in front of it is white space at the end of the line.

**Bytes.** The offset is put together from the sizes of six pieces of the text. In the line they are
all that is not the value or white space after it (`Span.pieces_eq`), so that the offset is the size
of a front part of the text (`Span.holds_of_parts`). If there is nothing but white space after the
equals sign, the span is empty and stands at the end of the line, after the line feed.
-/

namespace SdkLayout

namespace Span

/-! ### Lines -/

/-- A line of a text, with the line feed that ends it, between what stands before and after it. -/
structure IsLine (text before line after : List Char) : Prop where
  parts : text = before ++ line ++ after
  /-- A line starts the text or follows a line feed. -/
  starts : before = [] ∨ before.getLast? = some '\n'
  /-- Only the last character of a line can be a line feed. -/
  single : '\n' ∉ line.dropLast
  /-- A line ends the text or ends with a line feed. -/
  ends : after = [] ∨ line.getLast? = some '\n'

theorem lines_feed (rest : List Char) : lines ('\n' :: rest) = ['\n'] :: lines rest := by
  rw [lines]
  split
  · next none => rw [none]
  · next line more some => rw [some, if_pos rfl]

/-- A line feed ends the first line, and what follows is taken apart by itself. -/
theorem lines_first {line : List Char} (single : '\n' ∉ line) (rest : List Char) :
    lines (line ++ '\n' :: rest) = (line ++ ['\n']) :: lines rest := by
  induction line with
  | nil => exact lines_feed rest
  | cons c line ih =>
    obtain ⟨ne, single⟩ := List.ne_and_not_mem_of_not_mem_cons single
    rw [List.cons_append, lines, ih single]
    exact if_neg ne.symm

/-- A text without a line feed is one line. -/
theorem lines_last {line : List Char} (single : '\n' ∉ line) (ne : line ≠ []) :
    lines line = [line] := by
  induction line with
  | nil => exact absurd rfl ne
  | cons c line ih =>
    obtain ⟨other, single⟩ := List.ne_and_not_mem_of_not_mem_cons single
    cases line with
    | nil => rfl
    | cons d line =>
      rw [lines, ih single (List.cons_ne_nil d line)]
      exact if_neg other.symm

/-- A text that ends with a line feed is taken apart without regard to what follows. -/
theorem lines_append {before : List Char} (h : before = [] ∨ before.getLast? = some '\n')
    (rest : List Char) : lines (before ++ rest) = lines before ++ lines rest := by
  induction before with
  | nil => rfl
  | cons c more ih =>
    have fed := h.resolve_left (List.cons_ne_nil c more)
    cases first : lines more with
    | nil =>
      -- The only character is the line feed.
      obtain rfl : more = [] := by rw [← flatten_lines more, first, List.flatten_nil]
      obtain rfl : c = '\n' := Option.some.inj fed
      exact lines_feed rest
    | cons line others =>
      have fed : more.getLast? = some '\n' := by
        cases more with
        | nil => exact absurd first (by simp [lines])
        | cons d more => rwa [List.getLast?_cons_cons] at fed
      rw [List.cons_append, lines, lines, ih (.inr fed), first, List.cons_append]
      dsimp only
      split <;> rfl

/-- The first of the lines that a text is taken apart into is its first line, and the others are
those of the rest. -/
theorem isLine_of_lines_cons {text line : List Char} {others : List (List Char)}
    (h : lines text = line :: others) :
    line ≠ [] ∧ IsLine text [] line others.flatten ∧ lines others.flatten = others := by
  have parts : text = line ++ others.flatten := by
    rw [← List.flatten_cons, ← h, flatten_lines]
  suffices rest : line ≠ [] ∧ '\n' ∉ line.dropLast ∧
      (others = [] ∨ line.getLast? = some '\n') ∧ lines others.flatten = others by
    obtain ⟨ne, single, ends, again⟩ := rest
    exact ⟨ne, ⟨parts, .inl rfl, single, ends.imp_left fun none => by rw [none]; rfl⟩, again⟩
  clear parts
  induction text generalizing line with
  | nil => exact absurd h (by simp [lines])
  | cons c rest ih =>
    rw [lines] at h
    split at h
    · obtain ⟨rfl, rfl⟩ := List.cons.inj h
      exact ⟨List.cons_ne_nil c [], List.not_mem_nil, .inl rfl, rfl⟩
    next first more tail =>
    split at h
    -- A line feed is a line, or else a character joins the first line of the rest.
    · next feed =>
      obtain ⟨rfl, rfl⟩ := List.cons.inj h
      refine ⟨List.cons_ne_nil c [], List.not_mem_nil, .inr (congrArg some feed), ?_⟩
      rw [← tail, flatten_lines]
    · next plain =>
      obtain ⟨rfl, rfl⟩ := List.cons.inj h
      obtain ⟨ne, single, ends, again⟩ := ih tail
      obtain ⟨d, first, rfl⟩ := List.exists_cons_of_ne_nil ne
      refine ⟨List.cons_ne_nil c _, ?_, ends, again⟩
      rw [List.dropLast_cons_cons, List.mem_cons, not_or]
      exact ⟨Ne.symm plain, single⟩

/-- The lines that a text is taken apart into are lines of it, where they stand. -/
theorem isLine_of_lines {text line : List Char} {pre post : List (List Char)}
    (h : lines text = pre ++ line :: post) :
    line ≠ [] ∧ IsLine text pre.flatten line post.flatten := by
  induction pre generalizing text with
  | nil =>
    obtain ⟨ne, here, -⟩ := isLine_of_lines_cons h
    exact ⟨ne, here⟩
  | cons first pre ih =>
    obtain ⟨-, here, again⟩ := isLine_of_lines_cons h
    obtain ⟨ne, there⟩ := ih again
    refine ⟨ne, ?_, .inr ?_, there.single, there.ends⟩
    · rw [here.parts, there.parts]
      simp
    · -- The lines before begin with one that has others after it.
      have fed : first.getLast? = some '\n' := by
        refine here.ends.resolve_left ?_
        simp [ne]
      rw [List.flatten_cons, List.getLast?_append]
      rcases there.starts with none | some
      · rw [none, fed]
        rfl
      · rw [some]
        rfl

/-- A line of a text is one of the lines that it is taken apart into. -/
theorem IsLine.exists_lines_eq {text before line after : List Char}
    (h : IsLine text before line after) (ne : line ≠ []) :
    ∃ pre post, lines text = pre ++ line :: post ∧ pre.flatten = before := by
  refine ⟨lines before, lines after, ?_, flatten_lines before⟩
  rw [h.parts, List.append_assoc, lines_append h.starts]
  congr 1
  obtain ⟨body, last, rfl⟩ := (List.eq_nil_or_concat' line).resolve_left ne
  have single : '\n' ∉ body := by simpa using h.single
  by_cases feed : last = '\n'
  · rw [feed, List.append_assoc]
    exact lines_first single after
  · have none : after = [] := h.ends.resolve_right fun same => feed (by simpa using same)
    rw [none, List.append_nil, lines_last (by simp [single, Ne.symm feed]) ne]
    rfl

/-! ### Assignments -/

/-- A line assigns a value to a key: after its leading white space it has the key, white space or
none, an equals sign and the value. -/
def Assigns (key line value : List Char) : Prop :=
  ∃ gap, (∀ c ∈ gap, Text.isBlank c = true) ∧ Text.trimStart line = key ++ gap ++ '=' :: value

theorem assigns_iff {key line value : List Char} :
    Assigns key line value ↔
      ∃ rest, Text.trimStart line = key ++ rest ∧ Text.trimStart rest = '=' :: value := by
  have equals : Text.isBlank '=' = false := by decide
  constructor
  · rintro ⟨gap, blank, whole⟩
    refine ⟨gap ++ '=' :: value, by rw [whole, List.append_assoc], ?_⟩
    rw [Text.trimStart, List.dropWhile_append_of_pos blank,
      List.dropWhile_cons_of_neg (by simp [equals])]
  · rintro ⟨rest, starts, assigned⟩
    -- The gap is the white space that is trimmed from what follows the key.
    refine ⟨rest.takeWhile Text.isBlank, fun c hc => List.mem_takeWhile_imp hc, ?_⟩
    rw [starts, ← assigned, List.append_assoc, Text.trimStart, List.takeWhile_append_dropWhile]

/-- Only white space, the key and an equals sign stand before the value. -/
theorem Assigns.suffix {key line value : List Char} (h : Assigns key line value) :
    value <:+ line := by
  obtain ⟨gap, -, whole⟩ := h
  refine List.IsSuffix.trans ?_ (List.dropWhile_suffix Text.isBlank)
  rw [Text.trimStart] at whole
  rw [whole]
  exact (List.suffix_cons '=' value).trans (List.suffix_append (key ++ gap) _)

/-! ### Bytes -/

theorem utf8Len_eq_byteSize (cs : List Char) : String.utf8Len cs = byteSize cs := by
  induction cs with
  | nil => rfl
  | cons c cs ih => rw [String.utf8Len_cons, byteSize_cons, ih, Nat.add_comm]

/-- A span cuts a value out of a text: it starts and ends between characters, and the value is what
lies between. -/
structure Holds (s : Span) (text value : String) : Prop where
  starts : (⟨s.offset⟩ : String.Pos.Raw).IsValid text
  ends : (⟨s.offset + s.length⟩ : String.Pos.Raw).IsValid text
  cut : String.Pos.Raw.extract text ⟨s.offset⟩ ⟨s.offset + s.length⟩ = value

/-- The size of what stands before a value and the size of the value make a span of it. -/
theorem holds_of_parts {text : String} {front value back : List Char}
    (parts : text.toList = front ++ value ++ back) :
    Holds ⟨byteSize front, byteSize value⟩ text (.ofList value) := by
  obtain rfl : text = .ofList (front ++ value ++ back) := by rw [← parts, String.ofList_toList]
  -- Both ends are on the boundary of a character, as text stands on either side of them.
  refine ⟨?_, ?_, ?_⟩
  · refine String.Pos.Raw.isValid_iff_exists_append.2
      ⟨.ofList front, .ofList (value ++ back), ?_, ?_⟩
    · rw [← String.ofList_append, List.append_assoc]
    · rw [String.rawEndPos_ofList, utf8Len_eq_byteSize]
  · refine String.Pos.Raw.isValid_iff_exists_append.2
      ⟨.ofList (front ++ value), .ofList back, ?_, ?_⟩
    · rw [← String.ofList_append]
    · rw [String.rawEndPos_ofList, utf8Len_eq_byteSize, byteSize_append]
  · rw [← utf8Len_eq_byteSize, ← utf8Len_eq_byteSize]
    exact String.extract_of_valid front value back

/-! ### The value of a line -/

theorem byteSize_trimStart_le (cs : List Char) : byteSize (Text.trimStart cs) ≤ byteSize cs := by
  obtain ⟨blank, parts⟩ := List.dropWhile_suffix Text.isBlank (l := cs)
  have sizes := congrArg byteSize parts
  rw [byteSize_append] at sizes
  rw [Text.trimStart]
  omega

/-- **The offset in closed form.** The pieces that stand before a value add up to the line without
the value and what follows it. -/
theorem pieces_eq {key line rest value : List Char} (starts : Text.trimStart line = key ++ rest)
    (assigned : Text.trimStart rest = '=' :: value) (lineStart : Nat) :
    lineStart + (byteSize line - byteSize (Text.trimStart line)) + byteSize key +
        (byteSize rest - byteSize (Text.trimStart rest)) + 1 +
        (byteSize value - byteSize (Text.trimStart value)) =
      lineStart + (byteSize line - byteSize (Text.trimStart value)) := by
  have keyed : byteSize (Text.trimStart line) = byteSize key + byteSize rest := by
    rw [starts, byteSize_append]
  have equals : byteSize (Text.trimStart rest) = 1 + byteSize value := by
    rw [assigned, byteSize_cons]
    rfl
  -- Trimming makes nothing longer, so that no difference is cut off at zero.
  have indented := byteSize_trimStart_le line
  have gap := byteSize_trimStart_le rest
  have padded := byteSize_trimStart_le value
  omega

theorem ofLine?_eq_some_iff {key line : List Char} {lineStart : Nat} {s : Span} :
    ofLine? key lineStart line = some s ↔ ∃ value, Assigns key line value ∧
      s = ⟨lineStart + (byteSize line - byteSize (Text.trimStart value)),
        byteSize (Text.trim value)⟩ := by
  simp only [ofLine?, Option.bind_eq_some_iff, Option.map_eq_some_iff, afterPrefix?_eq_some_iff,
    List.singleton_append]
  constructor
  · rintro ⟨rest, starts, value, assigned, rfl⟩
    exact ⟨value, assigns_iff.2 ⟨rest, starts, assigned⟩,
      by rw [pieces_eq starts assigned lineStart]⟩
  · rintro ⟨value, assigns, rfl⟩
    obtain ⟨rest, starts, assigned⟩ := assigns_iff.1 assigns
    exact ⟨rest, starts, value, assigned, by rw [pieces_eq starts assigned lineStart]⟩

theorem ofLine?_eq_none_iff {key line : List Char} (lineStart : Nat) :
    ofLine? key lineStart line = none ↔ ∀ value, ¬ Assigns key line value := by
  rw [Option.eq_none_iff_forall_ne_some]
  constructor
  · exact fun none value assigns => none _ (ofLine?_eq_some_iff.2 ⟨value, assigns, rfl⟩)
  · intro unassigned s found
    obtain ⟨value, assigns, -⟩ := ofLine?_eq_some_iff.1 found
    exact unassigned value assigns

/-- The span of a value starts where the white space after the equals sign ends. -/
theorem exists_front_of_ofLine? {key line : List Char} {lineStart : Nat} {s : Span}
    (h : ofLine? key lineStart line = some s) :
    ∃ value front, Assigns key line value ∧ line = front ++ Text.trimStart value ∧
      s = ⟨lineStart + byteSize front, byteSize (Text.trim value)⟩ := by
  obtain ⟨value, assigns, rfl⟩ := ofLine?_eq_some_iff.1 h
  obtain ⟨front, parts⟩ := (List.dropWhile_suffix Text.isBlank).trans assigns.suffix
  refine ⟨value, front, assigns, parts.symm, ?_⟩
  rw [Text.trimStart, ← parts, byteSize_append, Nat.add_sub_cancel]

/-! ### The first assignment -/

theorem ofLines?_eq_none_iff {key : List Char} {lineStart : Nat} {ls : List (List Char)} :
    ofLines? key lineStart ls = none ↔ ∀ line ∈ ls, ∀ value, ¬ Assigns key line value := by
  induction ls generalizing lineStart with
  | nil => simp [ofLines?]
  | cons line rest ih =>
    rw [ofLines?, List.forall_mem_cons, ← ofLine?_eq_none_iff lineStart]
    cases ofLine? key lineStart line with
    | none => simp only [ih, true_and]
    | some s => simp

/-- The lines before the one that is found assign nothing, and it starts where they end. -/
theorem ofLines?_eq_some {key : List Char} {lineStart : Nat} {ls : List (List Char)} {s : Span}
    (h : ofLines? key lineStart ls = some s) :
    ∃ pre line post, ls = pre ++ line :: post ∧ (∀ l ∈ pre, ∀ value, ¬ Assigns key l value) ∧
      ofLine? key (lineStart + byteSize pre.flatten) line = some s := by
  induction ls generalizing lineStart with
  | nil => exact absurd h nofun
  | cons line rest ih =>
    rw [ofLines?] at h
    cases here : ofLine? key lineStart line with
    | some t =>
      rw [here] at h
      exact ⟨[], line, rest, rfl, by simp, here.trans h⟩
    -- A line without an assignment moves the start of the next one by its size.
    | none =>
      rw [here] at h
      obtain ⟨pre, found, post, rfl, unassigned, there⟩ := ih h
      refine ⟨line :: pre, found, post, rfl, ?_, ?_⟩
      · exact List.forall_mem_cons.2 ⟨(ofLine?_eq_none_iff _).1 here, unassigned⟩
      · rwa [List.flatten_cons, byteSize_append, ← Nat.add_assoc]

/-- The first line of a text that assigns a value to a key. -/
structure IsFirst (text key before line after value : List Char) : Prop where
  isLine : IsLine text before line after
  assigns : Assigns key line value
  /-- No line before it assigns a value to the key. -/
  first : ∀ b l a v, IsLine text b l a → b.length < before.length → ¬ Assigns key l v

theorem Assigns.ne_nil {key line value : List Char} (h : Assigns key line value) : line ≠ [] := by
  rintro rfl
  obtain ⟨gap, -, whole⟩ := h
  exact absurd whole (by simp)

/-- The first line in which a span is found is the first that assigns a value. -/
theorem isFirst_of_lines {text key line value : List Char} {pre post : List (List Char)}
    (parts : lines text = pre ++ line :: post)
    (unassigned : ∀ l ∈ pre, ∀ value, ¬ Assigns key l value) (assigns : Assigns key line value) :
    IsFirst text key pre.flatten line post.flatten value where
  isLine := (isLine_of_lines parts).2
  assigns
  first := by
    intro b l a v earlier shorter assigned
    obtain ⟨pre', post', parts', rfl⟩ := earlier.exists_lines_eq assigned.ne_nil
    -- The earlier line stands in front of the one that was found.
    have same := parts.symm.trans parts'
    rcases List.append_eq_append_iff.1 same with ⟨more, rfl, -⟩ | ⟨more, rfl, tail⟩
    · rw [List.flatten_append, List.length_append] at shorter
      omega
    · cases more with
      | nil =>
        rw [List.append_nil] at shorter
        exact Nat.lt_irrefl _ shorter
      | cons l' more =>
        obtain ⟨rfl, -⟩ := List.cons.inj tail
        exact unassigned l (by simp) v assigned

/-- **The span of a value is exact.** There is none exactly when no line assigns a value to the key.
Otherwise it starts where the white space after the equals sign ends, in the first line that assigns
one, and cuts the value without the white space around it out of the text. -/
theorem ofValue?_exact (text key : String) :
    (ofValue? text key = none ↔ ∀ before line after value,
      IsLine text.toList before line after → ¬ Assigns key.toList line value) ∧
    ∀ s, ofValue? text key = some s → ∃ before line after value,
      IsFirst text.toList key.toList before line after value ∧
      (∃ front, before ++ line = front ++ Text.trimStart value ∧ s.offset = byteSize front) ∧
      s.Holds text (.ofList (Text.trim value)) := by
  refine ⟨?_, fun s h => ?_⟩
  · rw [ofValue?, ofLines?_eq_none_iff]
    constructor
    · intro none before line after value isLine assigns
      obtain ⟨pre, post, parts, -⟩ := isLine.exists_lines_eq assigns.ne_nil
      exact none line (by simp [parts]) value assigns
    · intro unassigned line hline value
      obtain ⟨pre, post, parts⟩ := List.append_of_mem hline
      exact unassigned _ _ _ value (isLine_of_lines parts).2
  · obtain ⟨pre, line, post, parts, unassigned, here⟩ := ofLines?_eq_some h
    obtain ⟨value, front, assigns, line_eq, rfl⟩ := exists_front_of_ofLine? here
    have first := isFirst_of_lines parts unassigned assigns
    -- Behind the value the text goes on with the white space that is trimmed off, and later lines.
    obtain ⟨tail, trimmed⟩ := Text.trimEnd_prefix (Text.trimStart value)
    have whole : text.toList =
        (pre.flatten ++ front) ++ Text.trim value ++ (tail ++ post.flatten) := by
      rw [first.isLine.parts, line_eq, ← trimmed, Text.trim]
      simp only [List.append_assoc]
    refine ⟨pre.flatten, line, post.flatten, value, first, ⟨pre.flatten ++ front, ?_, ?_⟩, ?_⟩
    · rw [line_eq, List.append_assoc]
    · rw [byteSize_append, Nat.zero_add]
    · rw [Nat.zero_add, ← byteSize_append]
      exact holds_of_parts whole

/-- A text with a key that ends in another one, wide white space and carriage returns. -/
def wideText : String :=
  "# ä\r\nimport_path = 1\r\n\u3000path\u2003=\u00A0\"ö b\"\u2003\r\npath = 2"

theorem ofValue?_exact_wideText :
    ofValue? wideText "path" = some ⟨36, 6⟩ ∧ ∃ before line after value,
      IsFirst wideText.toList "path".toList before line after value ∧
      (∃ front, before ++ line = front ++ Text.trimStart value ∧ 36 = byteSize front) ∧
      Holds ⟨36, 6⟩ wideText (.ofList (Text.trim value)) := by
  have found : ofValue? wideText "path" = some ⟨36, 6⟩ := by decide +kernel
  exact ⟨found, (ofValue?_exact wideText "path").2 _ found⟩

end Span

end SdkLayout
