/-!
# Lists without repetitions, and sorted ones

`distinctBy key` keeps the first item of each key. `sortedStrings` lists the members of a list of
strings once each in ascending order, which is how sets of names and packages are written.
-/

namespace SdkLayout

/-- The items of a list whose key no earlier item has. -/
def distinctBy {α κ : Type} [DecidableEq κ] (key : α → κ) : List α → List α
  | [] => []
  | a :: rest => a :: (distinctBy key rest).filter fun b => decide (key b ≠ key a)

/-- The members of a list, each at its first place. -/
def distinct {α : Type} [DecidableEq α] (items : List α) : List α :=
  distinctBy id items

@[simp] theorem distinctBy_nil {α κ : Type} [DecidableEq κ] (key : α → κ) :
    distinctBy key [] = [] := rfl

@[simp] theorem distinct_nil {α : Type} [DecidableEq α] : distinct ([] : List α) = [] := rfl

/-- Every key of a list is the key of an item that is kept. -/
theorem map_distinctBy_mem {α κ : Type} [DecidableEq κ] (key : α → κ) (k : κ) (items : List α) :
    k ∈ (distinctBy key items).map key ↔ k ∈ items.map key := by
  induction items with
  | nil => rfl
  | cons a rest ih =>
    by_cases h : k = key a
    · simp [distinctBy, h]
    -- What the head drops has the key of the head, which is another one.
    · have hk : k ∈ ((distinctBy key rest).filter fun b => decide (key b ≠ key a)).map key ↔
          k ∈ (distinctBy key rest).map key := by
        simp only [List.mem_map, List.mem_filter, decide_eq_true_eq]
        constructor
        · rintro ⟨b, ⟨hb, _⟩, rfl⟩
          exact ⟨b, hb, rfl⟩
        · rintro ⟨b, hb, rfl⟩
          exact ⟨b, ⟨hb, h⟩, rfl⟩
      simp only [distinctBy, List.map_cons, List.mem_cons, h, false_or, hk, ih]

/-- No two items that are kept have the same key. -/
theorem nodup_map_distinctBy {α κ : Type} [DecidableEq κ] (key : α → κ) (items : List α) :
    ((distinctBy key items).map key).Nodup := by
  induction items with
  | nil => exact List.nodup_nil
  | cons a rest ih =>
    refine List.nodup_cons.2 ⟨?_, ?_⟩
    · simp
    · exact ih.sublist (List.filter_sublist.map key)

/-- Only items are left out. -/
theorem distinctBy_sublist {α κ : Type} [DecidableEq κ] (key : α → κ) (items : List α) :
    (distinctBy key items).Sublist items := by
  induction items with
  | nil => exact List.Sublist.slnil
  | cons a rest ih => exact (List.filter_sublist.trans ih).cons_cons a

theorem distinctBy_of_nodup {α κ : Type} [DecidableEq κ] {key : α → κ} {items : List α}
    (h : (items.map key).Nodup) : distinctBy key items = items := by
  induction items with
  | nil => rfl
  | cons a rest ih =>
    obtain ⟨ha, hrest⟩ := List.nodup_cons.1 h
    rw [distinctBy, ih hrest]
    refine congrArg (a :: ·) (List.filter_eq_self.2 fun b hb => decide_eq_true fun same => ?_)
    exact ha (List.mem_map.2 ⟨b, hb, same⟩)

/-- Of the items at the end those are left out whose key an item before has. -/
theorem distinctBy_append {α κ : Type} [DecidableEq κ] (key : α → κ) (items more : List α) :
    distinctBy key (items ++ more) = distinctBy key items
      ++ (distinctBy key more).filter fun b => decide (key b ∉ items.map key) := by
  induction items with
  | nil => exact (List.filter_eq_self.2 fun b _ => by simp).symm
  | cons a rest ih =>
    rw [List.cons_append, distinctBy, ih, distinctBy, List.filter_append, List.filter_filter,
      List.cons_append]
    congr 3
    funext b
    simp

/-- The item that is kept for a key is the first one that has it. -/
theorem mem_distinctBy {α κ : Type} [DecidableEq κ] {key : α → κ} {a : α} {items : List α} :
    a ∈ distinctBy key items ↔ items.find? (fun b => decide (key b = key a)) = some a := by
  induction items with
  | nil => simp
  | cons b rest ih =>
    rw [distinctBy, List.mem_cons, List.mem_filter, decide_eq_true_eq, ih]
    by_cases same : key b = key a
    -- The head has the key. Of the rest nothing with this key is kept.
    · rw [List.find?_cons_of_pos (by simpa using same), Option.some.injEq]
      constructor
      · rintro (rfl | ⟨-, other⟩)
        · rfl
        · exact absurd same.symm other
      · exact fun first => .inl first.symm
    -- The head has another key, so that it hides nothing.
    · rw [List.find?_cons_of_neg (by simpa using same)]
      constructor
      · rintro (rfl | ⟨found, -⟩)
        · exact absurd rfl same
        · exact found
      · exact fun found => .inr ⟨found, Ne.symm same⟩

/-- The keys of the items that are kept are all the keys, each at its first place. -/
theorem map_distinctBy {α κ : Type} [DecidableEq κ] (key : α → κ) (items : List α) :
    (distinctBy key items).map key = distinct (items.map key) := by
  induction items with
  | nil => rfl
  | cons a rest ih =>
    rw [List.map_cons, distinctBy, List.map_cons, distinct, distinctBy]
    refine congrArg (key a :: ·) ?_
    rw [← distinct, ← ih, List.filter_map]
    rfl

@[simp] theorem mem_distinct {α : Type} [DecidableEq α] {a : α} {items : List α} :
    a ∈ distinct items ↔ a ∈ items := by
  simpa [distinct] using map_distinctBy_mem id a items

theorem nodup_distinct {α : Type} [DecidableEq α] (items : List α) : (distinct items).Nodup := by
  simpa [distinct] using nodup_map_distinctBy id items

/-- The order of strings, by code points. -/
def stringLe (a b : String) : Bool :=
  decide (a ≤ b)

/-- The members of a list of strings in ascending order. -/
def sortedStrings (items : List String) : List String :=
  (distinct items).mergeSort stringLe

@[simp] theorem mem_sortedStrings {s : String} {items : List String} :
    s ∈ sortedStrings items ↔ s ∈ items := by
  simp [sortedStrings, (List.mergeSort_perm _ _).mem_iff]

theorem nodup_sortedStrings (items : List String) : (sortedStrings items).Nodup :=
  (List.mergeSort_perm _ _).nodup_iff.2 (nodup_distinct items)

end SdkLayout
