import Mathlib.Data.List.Pairwise
import SdkLayout.Distinct

/-!
# Sorted lists and the lists that they come from

Sorting erases order, as far as the order tells items apart. What is left of a list depends on

* its members alone, if it is written without repetitions (`mergeSort_distinct_congr`): a set is
  written in one way only;
* the runs of items with equal keys, in general (`mergeSort_congr_of_runs`): sorting is stable, so
  that it keeps the order within a run (`filter_mergeSort_of_key`) and no other.
-/

namespace SdkLayout

/-! ### Sets -/

section Sets

variable {α : Type} [DecidableEq α] {le : α → α → Bool}

/-- A set is written in one way only. -/
theorem mergeSort_distinct_congr (trans : ∀ a b c, le a b = true → le b c = true → le a c = true)
    (total : ∀ a b, (le a b || le b a) = true)
    (antisymm : ∀ a b, le a b = true → le b a = true → a = b) {l l' : List α}
    (same : ∀ a, a ∈ l ↔ a ∈ l') : (distinct l).mergeSort le = (distinct l').mergeSort le := by
  have perm : (distinct l).Perm (distinct l') := by
    refine (List.perm_ext_iff_of_nodup (nodup_distinct l) (nodup_distinct l')).2 fun a => ?_
    rw [mem_distinct, mem_distinct, same a]
  refine List.Perm.eq_of_pairwise (fun a b _ _ => antisymm a b)
    (List.pairwise_mergeSort trans total _) (List.pairwise_mergeSort trans total _) ?_
  exact ((List.mergeSort_perm _ _).trans perm).trans (List.mergeSort_perm _ _).symm

end Sets

theorem stringLe_iff (a b : String) : stringLe a b = true ↔ a ≤ b := by
  rw [stringLe, decide_eq_true_eq]

/-! ### Orders by a key -/

section Keys

variable {α : Type} {le : α → α → Bool} {key : α → String}
  (hle : ∀ a b, le a b = true ↔ key a ≤ key b)

include hle

theorem trans_of_key (a b c : α) (hab : le a b = true) (hbc : le b c = true) : le a c = true := by
  rw [hle] at hab hbc ⊢
  exact String.le_trans hab hbc

theorem total_of_key (a b : α) : (le a b || le b a) = true := by
  rw [Bool.or_eq_true, hle, hle]
  exact String.le_total ..

/-- Sorting by a text leaves the texts in ascending order. -/
theorem pairwise_mergeSort_of_key (l : List α) :
    (l.mergeSort le).Pairwise fun a b => key a ≤ key b :=
  (List.pairwise_mergeSort (trans_of_key hle) (total_of_key hle) l).imp fun h => (hle _ _).1 h

/-- If the keys tell items apart, a set of items is written in one way only. -/
theorem mergeSort_distinct_congr_of_key [DecidableEq α] (injective : ∀ a b, key a = key b → a = b)
    {l l' : List α} (same : ∀ a, a ∈ l ↔ a ∈ l') :
    (distinct l).mergeSort le = (distinct l').mergeSort le := by
  refine mergeSort_distinct_congr (trans_of_key hle) (total_of_key hle) (fun a b hab hba => ?_) same
  exact injective a b (String.le_antisymm ((hle a b).1 hab) ((hle b a).1 hba))

/-- If the keys tell items apart, those of a set ascend strictly once it is sorted. -/
theorem ascending_mergeSort_distinct [DecidableEq α] (injective : ∀ a b, key a = key b → a = b)
    (l : List α) : ((distinct l).mergeSort le).Pairwise fun a b => key a < key b := by
  have sorted := pairwise_mergeSort_of_key hle (distinct l)
  have once : ((distinct l).mergeSort le).Nodup :=
    (List.mergeSort_perm _ _).nodup_iff.2 (nodup_distinct l)
  refine (sorted.and once).imp fun {a b} ⟨below, apart⟩ => ?_
  exact String.not_le.1 fun above => apart (injective a b (String.le_antisymm below above))

/-- **Sorting is stable.** The items of one key keep their order. -/
theorem filter_mergeSort_of_key (k : String) (l : List α) :
    (l.mergeSort le).filter (fun a => decide (key a = k)) =
      l.filter fun a => decide (key a = k) := by
  -- Items of one key are in order whatever their order, so they stay a part of the sorted list.
  have run : (l.filter fun a => decide (key a = k)).Pairwise (le · ·) := by
    refine List.pairwise_of_forall_mem_list ?_
    intro a ha b hb
    have hka : key a = k := of_decide_eq_true (List.mem_filter.1 ha).2
    have hkb : key b = k := of_decide_eq_true (List.mem_filter.1 hb).2
    have same : key a = key b := hka.trans hkb.symm
    exact (hle a b).2 (same ▸ String.le_refl (key a))
  have part : (l.filter fun a => decide (key a = k)).Sublist
      ((l.mergeSort le).filter fun a => decide (key a = k)) := by
    have h := (List.sublist_mergeSort (trans_of_key hle) (total_of_key hle) run
      List.filter_sublist).filter fun a => decide (key a = k)
    rwa [List.filter_filter, List.filter_congr fun a _ => Bool.and_self _] at h
  exact (part.eq_of_length ((List.mergeSort_perm l le).filter _).length_eq.symm).symm

end Keys

/-! ### Runs -/

section Runs

variable {α : Type} {key : α → String}

/-- The first item of a sorted list has the least key. -/
theorem key_head_le {a b : α} {l : List α} (sorted : (a :: l).Pairwise fun x y => key x ≤ key y)
    (hb : b ∈ a :: l) : key a ≤ key b := by
  rcases List.mem_cons.1 hb with rfl | hb
  · exact String.le_refl _
  · exact (List.pairwise_cons.1 sorted).1 b hb

/-- Every item is in the run of its key. -/
theorem mem_iff_of_runs {l l' : List α}
    (runs : ∀ k, (l.filter fun a => decide (key a = k)) = l'.filter fun a => decide (key a = k))
    (a : α) : a ∈ l ↔ a ∈ l' := by
  have h : a ∈ (l.filter fun b => decide (key b = key a)) ↔
      a ∈ l'.filter fun b => decide (key b = key a) := by rw [runs (key a)]
  simpa only [List.mem_filter, decide_true, and_true] using h

/-- A sorted list is put together from its runs of items with equal keys. -/
theorem eq_of_runs {l l' : List α} (sorted : l.Pairwise fun a b => key a ≤ key b)
    (sorted' : l'.Pairwise fun a b => key a ≤ key b)
    (runs : ∀ k, (l.filter fun a => decide (key a = k)) = l'.filter fun a => decide (key a = k)) :
    l = l' := by
  induction l generalizing l' with
  | nil =>
    refine (List.eq_nil_iff_forall_not_mem.2 fun a ha => ?_).symm
    exact absurd ((mem_iff_of_runs runs a).2 ha) (by simp)
  | cons a rest ih =>
    have mem := mem_iff_of_runs runs
    match l' with
    | [] => exact absurd ((mem a).1 List.mem_cons_self) (by simp)
    | b :: rest' =>
      -- The least key is the same, and the first item of its run comes first in both lists.
      have hkey : key b = key a := String.le_antisymm
        (key_head_le sorted' ((mem a).1 List.mem_cons_self))
        (key_head_le sorted ((mem b).2 List.mem_cons_self))
      have first := runs (key a)
      rw [List.filter_cons_of_pos (by simp), List.filter_cons_of_pos (by simp [hkey])] at first
      obtain ⟨rfl, -⟩ := List.cons.inj first
      have runs' : ∀ k, (rest.filter fun c => decide (key c = k)) =
          rest'.filter fun c => decide (key c = k) := by
        intro k
        have h := runs k
        by_cases hk : key a = k
        · rw [List.filter_cons_of_pos (by simpa using hk),
            List.filter_cons_of_pos (by simpa using hk)] at h
          exact (List.cons.inj h).2
        · rwa [List.filter_cons_of_neg (by simpa using hk),
            List.filter_cons_of_neg (by simpa using hk)] at h
      exact congrArg (a :: ·)
        (ih (List.pairwise_cons.1 sorted).2 (List.pairwise_cons.1 sorted').2 runs')

/-- Lists with the same runs of items with equal keys are sorted to the same list. -/
theorem mergeSort_congr_of_runs {le : α → α → Bool} (hle : ∀ a b, le a b = true ↔ key a ≤ key b)
    {l l' : List α}
    (runs : ∀ k, (l.filter fun a => decide (key a = k)) = l'.filter fun a => decide (key a = k)) :
    l.mergeSort le = l'.mergeSort le := by
  refine eq_of_runs (pairwise_mergeSort_of_key hle l) (pairwise_mergeSort_of_key hle l') fun k => ?_
  rw [filter_mergeSort_of_key hle, filter_mergeSort_of_key hle, runs k]

/-- Where no key occurs twice, a run has no order. -/
theorem run_eq_of_perm {l l' : List α} (perm : l.Perm l') (once : (l.map key).Nodup) (k : String) :
    (l.filter fun a => decide (key a = k)) = l'.filter fun a => decide (key a = k) := by
  have alone : ∀ m : List α, (m.map key).Nodup →
      (m.filter fun a => decide (key a = k)).Pairwise fun _ _ => False := by
    intro m hm
    refine ((List.pairwise_map.1 hm).filter _).imp_of_mem fun {a b} ha hb hne => hne ?_
    have hka : key a = k := of_decide_eq_true (List.mem_filter.1 ha).2
    have hkb : key b = k := of_decide_eq_true (List.mem_filter.1 hb).2
    exact hka.trans hkb.symm
  exact (perm.filter _).eq_of_pairwise (fun _ _ _ _ h => h.elim) (alone l once)
    (alone l' ((perm.map key).nodup_iff.1 once))

end Runs

/-! ### Texts -/

/-- The members of a list of strings ascend strictly once they are sorted. -/
theorem sortedStrings_ascending (items : List String) :
    (sortedStrings items).Pairwise (· < ·) :=
  ascending_mergeSort_distinct stringLe_iff (fun _ _ same => same) items

theorem sortedStrings_congr {l l' : List String} (same : ∀ s, s ∈ l ↔ s ∈ l') :
    sortedStrings l = sortedStrings l' :=
  mergeSort_distinct_congr_of_key stringLe_iff (fun _ _ h => h) same

end SdkLayout
