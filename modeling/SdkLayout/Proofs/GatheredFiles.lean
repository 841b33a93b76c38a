import Mathlib.Data.List.Perm.Basic
import SdkLayout.Placement.Files
import SdkLayout.Proofs.SortedLists

/-!
# What gathering files does

`gatherFiles` turns a list of assignments into files. It loses nothing and repeats nothing
(`contents_gatherFiles_perm`), every file holds what was assigned to its target and is not empty
(`mem_contents_gatherFiles`, `contents_ne_nil`), the targets of the files ascend strictly
(`targets_gatherFiles`), and the contents of each file are in order (`contents_sorted`).
-/

namespace SdkLayout

/-! ### Orders -/

/-- The strict order of targets: by file name, then by package. -/
def Target.Precedes (a b : Target) : Prop :=
  a.filename < b.filename ∨ a.filename = b.filename ∧ a.package < b.package

namespace Target

theorem le_iff {a b : Target} :
    a.le b = true ↔ a.filename < b.filename ∨ a.filename = b.filename ∧ a.package ≤ b.package := by
  simp only [Target.le, Bool.or_eq_true, Bool.and_eq_true, decide_eq_true_eq, beq_iff_eq]

theorem le_trans {a b c : Target} (hab : a.le b = true) (hbc : b.le c = true) :
    a.le c = true := by
  rw [le_iff] at hab hbc ⊢
  rcases hab with hab | ⟨hab, hab'⟩
  · rcases hbc with hbc | ⟨hbc, -⟩
    · exact Or.inl (String.lt_trans hab hbc)
    · exact Or.inl (hbc ▸ hab)
  · rcases hbc with hbc | ⟨hbc, hbc'⟩
    · exact Or.inl (hab ▸ hbc)
    · exact Or.inr ⟨hab.trans hbc, String.le_trans hab' hbc'⟩

theorem le_total (a b : Target) : (a.le b || b.le a) = true := by
  rw [Bool.or_eq_true, le_iff, le_iff]
  by_cases hab : a.filename < b.filename
  · exact Or.inl (Or.inl hab)
  by_cases hba : b.filename < a.filename
  · exact Or.inr (Or.inl hba)
  have same : a.filename = b.filename :=
    String.le_antisymm (String.not_lt.1 hba) (String.not_lt.1 hab)
  rcases String.le_total a.package b.package with hp | hp
  · exact Or.inl (Or.inr ⟨same, hp⟩)
  · exact Or.inr (Or.inr ⟨same.symm, hp⟩)

theorem le_antisymm {a b : Target} (hab : a.le b = true) (hba : b.le a = true) : a = b := by
  rw [le_iff] at hab hba
  rcases hab with hab | ⟨same, hp⟩
  · rcases hba with hba | ⟨same, -⟩
    · exact absurd (String.lt_trans hab hba) (String.lt_irrefl _)
    · exact absurd (same ▸ hab) (String.lt_irrefl _)
  · rcases hba with hba | ⟨-, hp'⟩
    · exact absurd (same ▸ hba) (String.lt_irrefl _)
    · cases a
      cases b
      exact congr (congrArg Target.mk same) (String.le_antisymm hp hp')

/-- Different targets in order are in strict order. -/
theorem precedes_of_le {a b : Target} (h : a.le b = true) (hne : a ≠ b) : a.Precedes b := by
  rcases le_iff.1 h with hlt | ⟨same, hp⟩
  · exact Or.inl hlt
  · refine Or.inr ⟨same, String.not_le.1 fun hp' => hne ?_⟩
    exact le_antisymm h (le_iff.2 (Or.inr ⟨same.symm, hp'⟩))

end Target

/-! ### Files -/

section Partition

variable {κ α : Type} [DecidableEq κ]

/-- Splitting a list by a list of keys that has every key once loses and repeats nothing. -/
theorem flatMap_filter_perm {keys : List κ} (hn : keys.Nodup) {items : List (κ × α)}
    (cover : ∀ a ∈ items, a.1 ∈ keys) :
    (keys.flatMap fun k => items.filter fun a => decide (a.1 = k)).Perm items := by
  induction keys generalizing items with
  | nil =>
    have hnil : items = [] := List.eq_nil_iff_forall_not_mem.2 fun a ha =>
      absurd (cover a ha) (by simp)
    rw [hnil]
    exact List.Perm.refl _
  | cons k rest ih =>
    obtain ⟨hk, hn⟩ := List.nodup_cons.1 hn
    -- The items under other keys are split by the rest of the keys.
    have others : (rest.flatMap fun k' => items.filter fun a => decide (a.1 = k')) =
        rest.flatMap fun k' => (items.filter fun a => !decide (a.1 = k)).filter
          fun a => decide (a.1 = k') := by
      refine List.flatMap_congr fun k' hk' => ?_
      rw [List.filter_filter]
      refine List.filter_congr fun a _ => ?_
      by_cases h : a.1 = k'
      -- The key of an item in another part is not the first one, as no key is listed twice.
      · have hne : k' ≠ k := fun e => hk (e ▸ hk')
        simp [h, hne]
      · simp [h]
    have cover' : ∀ a ∈ items.filter (fun a => !decide (a.1 = k)), a.1 ∈ rest := by
      intro a ha
      obtain ⟨hmem, hne⟩ := List.mem_filter.1 ha
      exact (List.mem_cons.1 (cover a hmem)).resolve_left (by simpa using hne)
    rw [List.flatMap_cons, others]
    exact ((ih hn cover').append_left _).trans (List.filter_append_perm _ items)

end Partition

section Gather

variable {α : Type} {le : α → α → Bool} {assignments : List (Target × α)}

theorem mem_gatherFiles {f : FileOf α} :
    f ∈ gatherFiles le assignments ↔
      f.target ∈ assignments.map Prod.fst ∧
        f.contents = ((assignments.filter fun a => decide (a.1 = f.target)).map
          Prod.snd).mergeSort le := by
  rw [gatherFiles, List.mem_map]
  constructor
  · rintro ⟨target, ht, rfl⟩
    exact ⟨mem_distinct.1 (List.mem_mergeSort.1 ht), rfl⟩
  · rintro ⟨ht, hc⟩
    refine ⟨f.target, List.mem_mergeSort.2 (mem_distinct.2 ht), ?_⟩
    rw [← hc]

/-- A file holds exactly what was assigned to its target. -/
theorem mem_contents_gatherFiles {f : FileOf α} (hf : f ∈ gatherFiles le assignments) {a : α} :
    a ∈ f.contents ↔ (f.target, a) ∈ assignments := by
  rw [(mem_gatherFiles.1 hf).2, List.mem_mergeSort, List.mem_map]
  constructor
  · rintro ⟨x, hx, rfl⟩
    obtain ⟨hmem, hfst⟩ := List.mem_filter.1 hx
    have same : x.1 = f.target := of_decide_eq_true hfst
    rw [← same]
    exact hmem
  · intro h
    exact ⟨(f.target, a), List.mem_filter.2 ⟨h, decide_eq_true rfl⟩, rfl⟩

/-- No file is empty. -/
theorem contents_ne_nil {f : FileOf α} (hf : f ∈ gatherFiles le assignments) :
    f.contents ≠ [] := by
  obtain ⟨x, hx, hfst⟩ := List.mem_map.1 (mem_gatherFiles.1 hf).1
  have hmem : x.2 ∈ f.contents := by
    rw [mem_contents_gatherFiles hf, ← hfst]
    exact hx
  exact List.ne_nil_of_mem hmem

theorem map_target_gatherFiles :
    (gatherFiles le assignments).map FileOf.target =
      (distinct (assignments.map Prod.fst)).mergeSort Target.le := by
  rw [gatherFiles, List.map_map]
  exact List.map_id _

theorem mem_targets_gatherFiles {target : Target} :
    target ∈ (gatherFiles le assignments).map FileOf.target ↔
      target ∈ assignments.map Prod.fst := by
  rw [map_target_gatherFiles, List.mem_mergeSort, mem_distinct]

/-- What is assigned to a target is in the file of the target, and nothing else is. -/
theorem exists_mem_gatherFiles {target : Target} {a : α} :
    (∃ f ∈ gatherFiles le assignments, a ∈ f.contents ∧ f.target = target) ↔
      (target, a) ∈ assignments := by
  constructor
  · rintro ⟨f, hf, ha, rfl⟩
    exact (mem_contents_gatherFiles hf).1 ha
  · intro assigned
    have there : target ∈ (gatherFiles le assignments).map FileOf.target :=
      mem_targets_gatherFiles.2 (List.mem_map_of_mem assigned)
    obtain ⟨f, hf, rfl⟩ := List.mem_map.1 there
    exact ⟨f, hf, (mem_contents_gatherFiles hf).2 assigned, rfl⟩

/-- There is one file for each target. -/
theorem eq_of_mem_gatherFiles {f f' : FileOf α} (hf : f ∈ gatherFiles le assignments)
    (hf' : f' ∈ gatherFiles le assignments) (same : f'.target = f.target) : f' = f := by
  have contents : f'.contents = f.contents := by
    rw [(mem_gatherFiles.1 hf').2, same, ← (mem_gatherFiles.1 hf).2]
  cases f
  cases f'
  cases same
  cases contents
  rfl

theorem nodup_sorted_targets (targets : List Target) :
    ((distinct targets).mergeSort Target.le).Nodup :=
  (List.mergeSort_perm _ _).nodup_iff.2 (nodup_distinct _)

/-- The targets of the files ascend strictly: they are sorted, and none occurs twice. -/
theorem targets_gatherFiles :
    ((gatherFiles le assignments).map FileOf.target).Pairwise Target.Precedes := by
  rw [map_target_gatherFiles]
  have sorted : ((distinct (assignments.map Prod.fst)).mergeSort Target.le).Pairwise
      (Target.le · ·) := by
    apply List.pairwise_mergeSort
    · exact fun _ _ _ => Target.le_trans
    · exact Target.le_total
  have hn := nodup_sorted_targets (assignments.map Prod.fst)
  exact (sorted.and hn).imp fun h => Target.precedes_of_le h.1 h.2

theorem contents_sorted {key : α → String} (hle : ∀ a b, le a b = true ↔ key a ≤ key b)
    {f : FileOf α} (hf : f ∈ gatherFiles le assignments) :
    f.contents.Pairwise fun a b => key a ≤ key b := by
  rw [(mem_gatherFiles.1 hf).2]
  exact pairwise_mergeSort_of_key hle _

/-- **Nothing is lost, nothing is repeated.** -/
theorem contents_gatherFiles_perm (le : α → α → Bool) (assignments : List (Target × α)) :
    ((gatherFiles le assignments).flatMap FileOf.contents).Perm (assignments.map Prod.snd) := by
  have hn := nodup_sorted_targets (assignments.map Prod.fst)
  have cover : ∀ a ∈ assignments,
      a.1 ∈ (distinct (assignments.map Prod.fst)).mergeSort Target.le := fun a ha =>
    List.mem_mergeSort.2 (mem_distinct.2 (List.mem_map_of_mem ha))
  rw [gatherFiles, List.flatMap_map]
  -- Sorting within the files only rearranges, so that what is left is a split by target.
  refine (List.Perm.flatMap_left _ fun target _ => List.mergeSort_perm _ _).trans ?_
  rw [← List.map_flatMap]
  exact (flatMap_filter_perm hn cover).map Prod.snd

end Gather

/-! ### The order of assignments -/

section Order

variable {α : Type} {le : α → α → Bool} {key : α → String}

/-- The files depend, target by target, on the runs of contents with equal keys. -/
theorem gatherFiles_congr_of_runs (hle : ∀ a b, le a b = true ↔ key a ≤ key b)
    {l l' : List (Target × α)}
    (runs : ∀ target k, (l.filter fun a => decide (key a.2 = k) && decide (a.1 = target)) =
      l'.filter fun a => decide (key a.2 = k) && decide (a.1 = target)) :
    gatherFiles le l = gatherFiles le l' := by
  -- Both lists have the same items, since the run of an item's own key and target has it.
  have mem : ∀ a, a ∈ l ↔ a ∈ l' := by
    intro a
    have h : a ∈ (l.filter fun b => decide (key b.2 = key a.2) && decide (b.1 = a.1)) ↔
        a ∈ l'.filter fun b => decide (key b.2 = key a.2) && decide (b.1 = a.1) := by
      rw [runs a.1 (key a.2)]
    simpa only [List.mem_filter, decide_true, Bool.and_self, and_true] using h
  have targets : (distinct (l.map Prod.fst)).mergeSort Target.le =
      (distinct (l'.map Prod.fst)).mergeSort Target.le := by
    apply mergeSort_distinct_congr
    · exact fun _ _ _ => Target.le_trans
    · exact Target.le_total
    · exact fun _ _ => Target.le_antisymm
    · simp only [List.mem_map, mem, implies_true]
  rw [gatherFiles, gatherFiles, targets]
  refine List.map_congr_left fun target _ => congrArg (FileOf.mk target) ?_
  -- A stable sort keeps every run of equal keys as it is.
  refine mergeSort_congr_of_runs hle fun k => ?_
  rw [List.filter_map, List.filter_map, List.filter_filter, List.filter_filter]
  exact congrArg (List.map Prod.snd) (runs target k)

/-- Assignments whose contents have keys of their own may come in any order. -/
theorem gatherFiles_append_perm (hle : ∀ a b, le a b = true ↔ key a ≤ key b)
    (fixed : List (Target × α)) {l l' : List (Target × α)} (perm : l.Perm l')
    (once : (l.map fun a => key a.2).Nodup) :
    gatherFiles le (fixed ++ l) = gatherFiles le (fixed ++ l') := by
  refine gatherFiles_congr_of_runs hle fun target k => ?_
  have split : ∀ m : List (Target × α),
      (m.filter fun a => decide (key a.2 = k) && decide (a.1 = target)) =
        (m.filter fun a => decide (key a.2 = k)).filter fun a => decide (a.1 = target) := by
    intro m
    rw [List.filter_filter]
    exact List.filter_congr fun a _ => Bool.and_comm ..
  rw [List.filter_append, List.filter_append, split l, split l', run_eq_of_perm perm once k]

end Order

end SdkLayout
