import Mathlib
import SdkLayout.Text.Casing

/-!
# Small letters

A *small letter* is one of `a` to `z`. What letter case does to small letters is the question of this
module, asked backwards: which texts have a lower case of small letters alone?

**Lower case.** A character whose lower case has small letters only is a small letter, a capital of
ASCII or the Kelvin sign (`small_of_lowerChar`), and of these no lower case has any but the small
letters (`settled_of_mem_lowerChar`). So to put a text into lower case twice makes small letters of
nothing that was not small after the first time (`lower_lower_of_small`).

**Upper case.** The upper case of a character has a character that is not a small letter
(`exists_mem_upperChar`).

For the characters outside ASCII these are facts about the tables, checked entry by entry: the
entries are runs that move by a fixed distance, so that it is enough to look at their ends
(`CharShift.Avoids`).
-/

namespace SdkLayout.Text

/-! ### Characters -/

theorem isLower_iff_toNat {c : Char} : c.isLower = true ↔ 97 ≤ c.toNat ∧ c.toNat ≤ 122 := by
  simp [Char.isLower, UInt32.le_iff_toNat_le, ← Char.toNat_val]

theorem isUpper_iff_toNat {c : Char} : c.isUpper = true ↔ 65 ≤ c.toNat ∧ c.toNat ≤ 90 := by
  simp [Char.isUpper, UInt32.le_iff_toNat_le, ← Char.toNat_val]

theorem isAscii_iff {c : Char} : isAscii c = true ↔ c.toNat < 128 := decide_eq_true_iff

/-- The Kelvin sign, whose lower case is `k`. -/
def kelvin : Char := '\u212A'

/-- What holds of the characters of ASCII can be checked one by one. -/
theorem forall_ascii {P : Char → Prop} (h : ∀ n < 128, P (Char.ofNat n)) (c : Char)
    (ascii : isAscii c = true) : P c := by
  have own := h c.toNat (isAscii_iff.1 ascii)
  rwa [Char.ofNat_toNat] at own

theorem not_small_of_not_ascii {c : Char} (h : ¬ isAscii c = true) : ¬ c.isLower = true := by
  rw [isAscii_iff] at h
  rw [isLower_iff_toNat]
  omega

theorem not_capital_of_not_ascii {c : Char} (h : ¬ isAscii c = true) : ¬ c.isUpper = true := by
  rw [isAscii_iff] at h
  rw [isUpper_iff_toNat]
  omega

/-! ### Tables -/

/-- A shift moves no character into an interval. -/
def CharShift.Avoids (s : CharShift) (low high : Nat) : Prop :=
  (high : Int) < s.first + s.delta ∨ (s.last : Int) + s.delta < low

instance (s : CharShift) (low high : Nat) : Decidable (s.Avoids low high) :=
  inferInstanceAs (Decidable (_ ∨ _))

theorem shift?_eq_some {shifts : List CharShift} {c d : Char} (h : shift? shifts c = some d) :
    ∃ s ∈ shifts, s.first ≤ c.toNat ∧ c.toNat ≤ s.last ∧
      d = Char.ofNat (Int.toNat (c.toNat + s.delta)) := by
  obtain ⟨s, found, rfl⟩ := Option.map_eq_some_iff.1 h
  have has := List.find?_some found
  simp only [CharRun.has, Bool.and_eq_true, decide_eq_true_eq] at has
  exact ⟨s, List.mem_of_find?_eq_some found, has.1.1, has.1.2, rfl⟩

/-- A shift that avoids an interval leads to a character outside it. -/
theorem CharShift.Avoids.not_mem {s : CharShift} {low high : Nat} (h : s.Avoids low high)
    (pos : 0 < low) {n : Nat} (first : s.first ≤ n) (last : n ≤ s.last) :
    ¬ (low ≤ (Char.ofNat (Int.toNat (n + s.delta))).toNat ∧
      (Char.ofNat (Int.toNat (n + s.delta))).toNat ≤ high) := by
  rw [Char.toNat_ofNat]
  split
  · unfold Avoids at h
    omega
  · omega

theorem expansion?_eq_some {table : List (Nat × List Nat)} {c : Char} {cs : List Char}
    (h : expansion? table c = some cs) : ∃ e ∈ table, cs = e.2.map Char.ofNat := by
  obtain ⟨ns, found, rfl⟩ := Option.map_eq_some_iff.1 h
  obtain ⟨before, after, rfl, -⟩ := List.lookup_eq_some_iff.1 found
  exact ⟨(c.toNat, ns), by simp, rfl⟩

/-- How a character is mapped: in ASCII by a function, elsewhere by a table of longer mappings or a
table of shifts, or to itself. -/
inductive Maps (own : Char → Char) (long : List (Nat × List Nat)) (short : List CharShift)
    (c : Char) : List Char → Prop
  | ascii : isAscii c = true → Maps own long short c [own c]
  | long {e : Nat × List Nat} : e ∈ long → Maps own long short c (e.2.map Char.ofNat)
  | short {s : CharShift} : s ∈ short → s.first ≤ c.toNat → c.toNat ≤ s.last →
      Maps own long short c [Char.ofNat (Int.toNat (c.toNat + s.delta))]
  | none : ¬ isAscii c = true → shift? short c = none → Maps own long short c [c]

theorem maps_tables (own : Char → Char) (long : List (Nat × List Nat)) (short : List CharShift)
    (c : Char) : Maps own long short c
      (if isAscii c then [own c]
        else match expansion? long c with
          | some cs => cs
          | none => [(shift? short c).getD c]) := by
  split
  · next ascii => exact .ascii ascii
  next other =>
  split
  · next cs found =>
    obtain ⟨e, he, rfl⟩ := expansion?_eq_some found
    exact .long he
  next found =>
  -- A character in none of the tables is its own case.
  cases shifted : shift? short c with
  | none => exact .none other shifted
  | some d =>
    obtain ⟨s, hs, first, last, rfl⟩ := shift?_eq_some shifted
    exact .short hs first last

theorem maps_lowerChar (c : Char) :
    Maps Char.toLower CaseTable.toLowerLong CaseTable.toLower c (lowerChar c) :=
  maps_tables ..

theorem maps_upperChar (c : Char) :
    Maps Char.toUpper CaseTable.toUpperLong CaseTable.toUpper c (upperChar c) :=
  maps_tables ..

/-! ### Characters -/

/-- A character that is no capital of ASCII and not the Kelvin sign. -/
def Settled (c : Char) : Prop :=
  ¬ c.isUpper = true ∧ c ≠ kelvin

instance (c : Char) : Decidable (Settled c) :=
  inferInstanceAs (Decidable (_ ∧ _))

/-- A settled character whose lower case is made of small letters is a small letter. -/
theorem small_of_lowerChar {c : Char} (settled : Settled c)
    (h : ∀ d ∈ lowerChar c, d.isLower = true) : c.isLower = true := by
  -- ASCII and the tables are checked: no entry leads to small letters alone, but for that of the
  -- Kelvin sign.
  have ascii : ∀ c : Char, isAscii c = true → Settled c → c.toLower.isLower = true →
      c.isLower = true := forall_ascii (by decide +kernel)
  have long : ∀ e ∈ CaseTable.toLowerLong, ∃ n ∈ e.2, ¬ (Char.ofNat n).isLower = true := by
    decide +kernel
  have short : ∀ s ∈ CaseTable.toLower,
      s.Avoids 97 122 ∨ s.first = kelvin.toNat ∧ s.last = kelvin.toNat := by decide +kernel
  have maps := maps_lowerChar c
  generalize lowerChar c = image at h maps
  cases maps with
  | ascii own => exact ascii c own settled (h _ (List.mem_singleton_self _))
  | long he =>
    obtain ⟨n, hn, big⟩ := long _ he
    exact absurd (h _ (List.mem_map_of_mem hn)) big
  | short hs first last =>
    rcases short _ hs with avoids | ⟨hfirst, hlast⟩
    · have small := isLower_iff_toNat.1 (h _ (List.mem_singleton_self _))
      exact absurd small (avoids.not_mem (by decide) first last)
    · exact absurd (Char.toNat_inj.1 (by omega)) settled.2
  | none _ _ => exact h c (List.mem_singleton_self c)

/-- Whatever stands in the lower case of a character is settled. -/
theorem settled_of_mem_lowerChar {c d : Char} (h : d ∈ lowerChar c) : Settled d := by
  -- ASCII and the tables are checked: no entry leads to a capital or to the Kelvin sign.
  have ascii : ∀ c : Char, isAscii c = true → Settled c.toLower :=
    forall_ascii (by decide +kernel)
  have long : ∀ e ∈ CaseTable.toLowerLong, ∀ n ∈ e.2, Settled (Char.ofNat n) := by decide +kernel
  have short : ∀ s ∈ CaseTable.toLower,
      s.Avoids 65 90 ∧ s.Avoids kelvin.toNat kelvin.toNat := by decide +kernel
  have known : shift? CaseTable.toLower kelvin ≠ none := by decide +kernel
  have maps := maps_lowerChar c
  generalize lowerChar c = image at h maps
  cases maps with
  | ascii own =>
    rw [List.mem_singleton.1 h]
    exact ascii c own
  | long he =>
    obtain ⟨n, hn, rfl⟩ := List.mem_map.1 h
    exact long _ he n hn
  | short hs first last =>
    obtain ⟨capitals, sign⟩ := short _ hs
    rw [List.mem_singleton.1 h]
    refine ⟨fun upper => ?_, fun same => ?_⟩
    · exact capitals.not_mem (by decide) first last (isUpper_iff_toNat.1 upper)
    · exact sign.not_mem (by decide) first last ⟨by rw [same], by rw [same]⟩
  -- What no table changes is not the Kelvin sign, which is in one of them.
  | none other absent =>
    rw [List.mem_singleton.1 h]
    refine ⟨not_capital_of_not_ascii other, ?_⟩
    rintro rfl
    exact known absent

/-- No upper case is made of small letters. -/
theorem exists_mem_upperChar (c : Char) : ∃ d ∈ upperChar c, ¬ d.isLower = true := by
  -- ASCII and the tables are checked: every entry leads to something other than a small letter.
  have ascii : ∀ c : Char, isAscii c = true → ¬ c.toUpper.isLower = true :=
    forall_ascii (by decide +kernel)
  have long : ∀ e ∈ CaseTable.toUpperLong, ∃ n ∈ e.2, ¬ (Char.ofNat n).isLower = true := by
    decide +kernel
  have short : ∀ s ∈ CaseTable.toUpper, s.Avoids 97 122 := by decide +kernel
  have maps := maps_upperChar c
  generalize upperChar c = image at maps
  cases maps with
  | ascii own => exact ⟨_, List.mem_singleton_self _, ascii c own⟩
  | long he =>
    obtain ⟨n, hn, big⟩ := long _ he
    exact ⟨_, List.mem_map_of_mem hn, big⟩
  | short hs first last =>
    refine ⟨_, List.mem_singleton_self _, fun small => ?_⟩
    exact (short _ hs).not_mem (by decide) first last (isLower_iff_toNat.1 small)
  | none other _ => exact ⟨c, List.mem_singleton_self c, not_small_of_not_ascii other⟩

theorem lowerChar_of_small {c : Char} (h : c.isLower = true) : lowerChar c = [c] := by
  have ascii : ∀ c : Char, isAscii c = true → c.isLower = true → c.toLower = c :=
    forall_ascii (by decide +kernel)
  have own : isAscii c = true := by
    by_contra other
    exact not_small_of_not_ascii other h
  rw [lowerChar, if_pos own, ascii c own h]

/-! ### Texts -/

theorem lowerBetween_of_ne_sigma {c : Char} (h : c ≠ 'Σ') (before after : List Char) :
    lowerBetween before c after = lowerChar c := if_neg h

/-- A settled character whose lower case in a text is made of small letters is a small letter. -/
theorem small_of_lowerBetween {before after : List Char} {c : Char} (settled : Settled c)
    (h : ∀ d ∈ lowerBetween before c after, d.isLower = true) : c.isLower = true := by
  by_cases sigma : c = 'Σ'
  · rw [lowerBetween, if_pos sigma] at h
    split at h <;> exact absurd (h _ (List.mem_singleton_self _)) (by decide)
  · rw [lowerBetween_of_ne_sigma sigma] at h
    exact small_of_lowerChar settled h

theorem settled_of_mem_lowerBetween {before after : List Char} {c d : Char}
    (h : d ∈ lowerBetween before c after) : Settled d := by
  by_cases sigma : c = 'Σ'
  · rw [lowerBetween, if_pos sigma] at h
    split at h <;> rw [List.mem_singleton.1 h] <;> decide
  · rw [lowerBetween_of_ne_sigma sigma] at h
    exact settled_of_mem_lowerChar h

/-- The lower case of a text is that of its characters where they stand. -/
theorem mem_lowerAfter {before cs : List Char} {d : Char} :
    d ∈ lowerAfter before cs ↔
      ∃ pre c post, cs = pre ++ c :: post ∧ d ∈ lowerBetween (pre.reverse ++ before) c post := by
  -- What stands before a character is read from it outwards, so that `before` is in reverse.
  induction cs generalizing before with
  | nil => simp [lowerAfter]
  | cons c rest ih =>
    rw [lowerAfter, List.mem_append, ih]
    constructor
    · rintro (here | ⟨pre, c', post, rfl, there⟩)
      · exact ⟨[], c, rest, rfl, here⟩
      · refine ⟨c :: pre, c', post, rfl, ?_⟩
        rwa [List.reverse_cons, List.append_assoc]
    · rintro ⟨pre, c', post, same, there⟩
      cases pre with
      | nil =>
        obtain ⟨rfl, rfl⟩ := List.cons.inj same
        exact .inl there
      | cons first pre =>
        obtain ⟨rfl, rfl⟩ := List.cons.inj same
        rw [List.reverse_cons, List.append_assoc] at there
        exact .inr ⟨pre, c', post, rfl, there⟩

/-- A text of small letters is in lower case. -/
theorem lowerAfter_of_small {before cs : List Char} (h : ∀ c ∈ cs, c.isLower = true) :
    lowerAfter before cs = cs := by
  induction cs generalizing before with
  | nil => rfl
  | cons c rest ih =>
    obtain ⟨hc, hrest⟩ := List.forall_mem_cons.1 h
    have plain : c ≠ 'Σ' := by
      rintro rfl
      exact absurd hc (by decide)
    rw [lowerAfter, lowerBetween_of_ne_sigma plain, lowerChar_of_small hc, ih hrest]
    rfl

/-- If twice the lower case of a text is made of small letters, once is enough. -/
theorem lower_lower_of_small {cs : List Char} (h : ∀ d ∈ lower (lower cs), d.isLower = true) :
    lower (lower cs) = lower cs := by
  refine lowerAfter_of_small fun c hc => ?_
  obtain ⟨_, _, _, -, image⟩ := mem_lowerAfter.1 hc
  obtain ⟨pre, post, there⟩ := List.append_of_mem hc
  exact small_of_lowerBetween (settled_of_mem_lowerBetween image) fun d hd =>
    h d (mem_lowerAfter.2 ⟨pre, c, post, there, hd⟩)

/-- Underscores stay. -/
theorem underscore_mem_lower {cs : List Char} (h : '_' ∈ cs) : '_' ∈ lower cs := by
  obtain ⟨pre, post, rfl⟩ := List.append_of_mem h
  refine mem_lowerAfter.2 ⟨pre, '_', post, rfl, ?_⟩
  rw [lowerBetween_of_ne_sigma (by decide)]
  decide

/-- From the second word on, camel case has upper case. -/
theorem exists_mem_camelCase {cs : List Char} (h : 2 ≤ (splitWords cs).length) :
    ∃ d ∈ camelCase cs, ¬ d.isLower = true := by
  rw [camelCase]
  match words : splitWords cs, h with
  | first :: second :: rest, _ =>
    have there : second ∈ splitWords cs := by simp [words]
    cases second with
    | nil => exact absurd rfl (ne_nil_of_mem_splitWords there)
    | cons c others =>
      obtain ⟨d, hd, big⟩ := exists_mem_upperChar c
      refine ⟨d, ?_, big⟩
      rw [camelWords, List.flatMap_cons, capitalize]
      simp [hd]

end SdkLayout.Text
