import Mathlib
import SdkLayout.Proofs.CycleReports
import SdkLayout.Proofs.ImportCycles

/-!
# Leaf groups

What may move out of a cycle of packages is exact, and there always is something
(`ReferenceGraph.leafGroups_exact`). Among the types that a cycle implicates, the leaf groups are
the classes of types that refer to each other, directly or through other implicated types, and to no
implicated type outside the class (`ReferenceGraph.IsLeafGroup`).

That there is one rests on two facts. Every package of a cycle imports another one of it
(`exists_crossing`), so that the cycle implicates types; and among finitely many types there is a
class that refers to no other (`Digraph.sinks_ne_nil`).
-/

namespace SdkLayout

open Relation

namespace ReferenceGraph

variable {g : ReferenceGraph} {cycle : List String}

/-! ### Implicated types -/

/-- A reference leads from one package of a cycle to another one. -/
def Crosses (g : ReferenceGraph) (cycle : List String) (r : TypeId × TypeId) : Prop :=
  r ∈ g.references ∧ ∃ p ∈ cycle, ∃ q ∈ cycle, p ≠ q ∧
    g.packageOf r.1 = some p ∧ g.packageOf r.2 = some q

/-- A type is an end of a reference that leads from one package of a cycle to another one. -/
def Implicated (g : ReferenceGraph) (cycle : List String) (id : TypeId) : Prop :=
  ∃ r, g.Crosses cycle r ∧ (id = r.1 ∨ id = r.2)

theorem inCycle_iff {id : TypeId} :
    g.inCycle cycle id = true ↔ ∃ p ∈ cycle, g.packageOf id = some p := by
  rw [inCycle, Option.any_eq_true]
  constructor
  · rintro ⟨p, hp, listed⟩
    exact ⟨p, List.contains_iff_mem.1 listed, hp⟩
  · rintro ⟨p, listed, hp⟩
    exact ⟨p, hp, List.contains_iff_mem.2 listed⟩

theorem crosses_iff {r : TypeId × TypeId} :
    g.Crosses cycle r ↔
      r ∈ g.crossReferences ∧ g.inCycle cycle r.1 = true ∧ g.inCycle cycle r.2 = true := by
  rw [inCycle_iff, inCycle_iff, crossReferences, List.mem_filter, bne_iff_ne]
  constructor
  · rintro ⟨hr, p, hp, q, hq, ne, source, target⟩
    refine ⟨⟨hr, ?_⟩, ⟨p, hp, source⟩, q, hq, target⟩
    rw [source, target]
    exact fun same => ne (Option.some.inj same)
  · rintro ⟨⟨hr, ne⟩, ⟨p, hp, source⟩, q, hq, target⟩
    refine ⟨hr, p, hp, q, hq, ?_, source, target⟩
    rintro rfl
    exact ne (source.trans target.symm)

theorem mem_implicated_iff {id : TypeId} : id ∈ g.implicated cycle ↔ g.Implicated cycle id := by
  rw [mem_implicated]
  simp only [Implicated, crosses_iff, and_assoc]

/-- Implicated types are listed once each, in ascending order. -/
theorem implicated_ascending (g : ReferenceGraph) (cycle : List String) :
    (g.implicated cycle).Pairwise fun a b => a.text < b.text :=
  ascending_mergeSort_distinct Id.le_iff (fun _ _ => Id.ext_iff.2) _

/-- Every package of a cycle has a type that refers to a type of another package of the cycle. -/
theorem exists_crossing (h : cycle ∈ g.importGraph.cycles) {p : String} (hp : p ∈ cycle) :
    ∃ r ∈ g.references, ∃ q ∈ cycle, p ≠ q ∧
      g.packageOf r.1 = some p ∧ g.packageOf r.2 = some q := by
  have inside := edgesInside_importGraph g
  -- Another package of the cycle, and the path that leads there.
  obtain ⟨q, hq, hne⟩ := Digraph.exists_other_of_mem_cycles (nodup_sortedStrings _) h p
  have path : g.importGraph.Reaches p q := Digraph.reaches_of_mem_cycles inside h hp hq
  have back : g.importGraph.Reaches q p := Digraph.reaches_of_mem_cycles inside h hq hp
  rcases path.cases_head with same | ⟨x, edge, rest⟩
  · exact absurd same.symm hne
  -- Its first package is one of the cycle, as a path leads back from there.
  · have hx : x ∈ cycle :=
      Digraph.mem_of_mem_cycles inside h hp (.single edge) (rest.trans back)
    obtain ⟨different, r, hr, hpr, hxr⟩ := edge_importGraph.1 edge
    exact ⟨r, hr, x, hx, different, hpr, hxr⟩

/-- Both ends of a reference between packages of a cycle are implicated. -/
theorem mem_implicated_of_crossing {r : TypeId × TypeId} (hr : r ∈ g.references) {p q : String}
    (hp : p ∈ cycle) (hq : q ∈ cycle) (hne : p ≠ q) (hpr : g.packageOf r.1 = some p)
    (hqr : g.packageOf r.2 = some q) : r.1 ∈ g.implicated cycle ∧ r.2 ∈ g.implicated cycle := by
  have crosses : g.Crosses cycle r := ⟨hr, p, hp, q, hq, hne, hpr, hqr⟩
  exact ⟨mem_implicated_iff.2 ⟨r, crosses, .inl rfl⟩, mem_implicated_iff.2 ⟨r, crosses, .inr rfl⟩⟩

/-! ### Classes of implicated types -/

/-- An implicated type refers to an implicated type. -/
def RefersAmong (g : ReferenceGraph) (cycle : List String) (a b : TypeId) : Prop :=
  (a, b) ∈ g.references ∧ g.Implicated cycle a ∧ g.Implicated cycle b

/-- **A leaf group.** A class of implicated types that refer to each other, and to none besides. -/
structure IsLeafGroup (g : ReferenceGraph) (cycle : List String) (group : List TypeId) : Prop where
  nonempty : group ≠ []
  /-- The members are listed once each, in ascending order. -/
  ascending : group.Pairwise fun a b => a.text < b.text
  implicated : ∀ a ∈ group, g.Implicated cycle a
  /-- With a member, the group has the types that are reached from it and that reach it. -/
  whole : ∀ a ∈ group, ∀ b, b ∈ group ↔
    ReflTransGen (g.RefersAmong cycle) a b ∧ ReflTransGen (g.RefersAmong cycle) b a
  /-- No reference to an implicated type leads out of the group. -/
  closed : ∀ a ∈ group, ∀ b, g.RefersAmong cycle a b → b ∈ group

theorem edge_among_implicated :
    (g.among (g.implicated cycle)).Edge = g.RefersAmong cycle := by
  funext a b
  rw [Digraph.Edge, among, List.mem_filter, Bool.and_eq_true, List.contains_iff_mem,
    List.contains_iff_mem, mem_implicated_iff, mem_implicated_iff]
  rfl

theorem edgesInside_among (g : ReferenceGraph) (cycle : List String) :
    (g.among (g.implicated cycle)).EdgesInside := by
  intro a b edge
  rw [edge_among_implicated] at edge
  exact mem_implicated_iff.2 edge.2.2

/-- Two groups with a common member are the same: both list its class in ascending order. -/
theorem IsLeafGroup.eq_of_mem {l m : List TypeId} (hl : g.IsLeafGroup cycle l)
    (hm : g.IsLeafGroup cycle m) {a : TypeId} (hal : a ∈ l) (ham : a ∈ m) : l = m := by
  have once : ∀ {n : List TypeId}, g.IsLeafGroup cycle n → n.Nodup := by
    intro n hn
    refine hn.ascending.imp fun below same => ?_
    exact String.lt_irrefl _ (same ▸ below)
  have perm : l.Perm m := (List.perm_ext_iff_of_nodup (once hl) (once hm)).2 fun b =>
    (hl.whole a hal b).trans (hm.whole a ham b).symm
  refine perm.eq_of_pairwise (fun b c _ _ below above => ?_) hl.ascending hm.ascending
  exact absurd (String.lt_trans below above) (String.lt_irrefl _)

/-- The component of an implicated type is its class. -/
theorem mem_componentOf_among {a b : TypeId} (ha : a ∈ g.implicated cycle) :
    b ∈ (g.among (g.implicated cycle)).componentOf a ↔
      ReflTransGen (g.RefersAmong cycle) a b ∧ ReflTransGen (g.RefersAmong cycle) b a := by
  rw [Digraph.mem_componentOf (edgesInside_among g cycle) ha, Digraph.Reaches,
    edge_among_implicated]

/-- The class of an implicated type is a leaf group as soon as it is closed. -/
theorem isLeafGroup_componentOf {a : TypeId} (ha : a ∈ g.implicated cycle)
    (closed : ∀ b ∈ (g.among (g.implicated cycle)).componentOf a, ∀ d, g.RefersAmong cycle b d →
      d ∈ (g.among (g.implicated cycle)).componentOf a) :
    g.IsLeafGroup cycle ((g.among (g.implicated cycle)).componentOf a) := by
  have part : ((g.among (g.implicated cycle)).componentOf a).Sublist (g.implicated cycle) :=
    Digraph.sublist_nodes_of_mem_components (Digraph.mem_components.2 ⟨a, ha, rfl⟩)
  exact
    { nonempty := List.ne_nil_of_mem ((mem_componentOf_among ha).2 ⟨.refl, .refl⟩)
      ascending := (implicated_ascending g cycle).sublist part
      implicated := fun b hb => mem_implicated_iff.1 (part.subset hb)
      whole := fun b hb d => by
        -- The class of a member is the same class.
        rw [← Digraph.componentOf_eq_of_mem (edgesInside_among g cycle) ha hb]
        exact mem_componentOf_among (part.subset hb)
      closed }

/-- **The groups that may move are the leaf groups.** -/
theorem mem_leafGroups {group : List TypeId} :
    group ∈ g.leafGroups cycle ↔ g.IsLeafGroup cycle group := by
  rw [leafGroups, Digraph.mem_sinks, edge_among_implicated]
  constructor
  · rintro ⟨a, ha, rfl, closed⟩
    exact isLeafGroup_componentOf ha closed
  · intro leaf
    obtain ⟨a, ha⟩ := List.exists_mem_of_ne_nil group leaf.nonempty
    have implicated : a ∈ g.implicated cycle := mem_implicated_iff.2 (leaf.implicated a ha)
    -- The class of a member has the same members, so that it is closed as well.
    have same : ∀ b, b ∈ (g.among (g.implicated cycle)).componentOf a ↔ b ∈ group := fun b =>
      (mem_componentOf_among implicated).trans (leaf.whole a ha b).symm
    have closed : ∀ b ∈ (g.among (g.implicated cycle)).componentOf a, ∀ d,
        g.RefersAmong cycle b d → d ∈ (g.among (g.implicated cycle)).componentOf a := by
      intro b hb d refers
      exact (same d).2 (leaf.closed b ((same b).1 hb) d refers)
    have other := isLeafGroup_componentOf implicated closed
    obtain rfl := leaf.eq_of_mem other ha ((same a).2 ha)
    exact ⟨a, implicated, rfl, leaf.closed⟩

/-- **Every cycle has a leaf group.** -/
theorem leafGroups_ne_nil (h : cycle ∈ g.importGraph.cycles) : g.leafGroups cycle ≠ [] := by
  obtain ⟨-, several⟩ := Digraph.mem_cycles.1 h
  obtain ⟨p, hp⟩ := List.exists_mem_of_length_pos (Nat.lt_of_lt_of_le Nat.zero_lt_two several)
  obtain ⟨r, hr, q, hq, hne, hpr, hqr⟩ := exists_crossing h hp
  have implicated := (mem_implicated_of_crossing hr hp hq hne hpr hqr).1
  exact Digraph.sinks_ne_nil (edgesInside_among g cycle) (List.ne_nil_of_mem implicated)

/-- **What may move out of a cycle is exact, and never nothing.** -/
theorem leafGroups_exact (g : ReferenceGraph) (h : cycle ∈ g.importGraph.cycles) :
    (∀ group, group ∈ g.leafGroups cycle ↔ g.IsLeafGroup cycle group) ∧
      (g.leafGroups cycle).Nodup ∧
      (g.leafGroups cycle).Pairwise List.Disjoint ∧
      (g.leafGroups cycle).Pairwise (FirstsRelated fun a b => a.text < b.text) ∧
      g.leafGroups cycle ≠ [] := by
  have inside := edgesInside_among g cycle
  -- Leaf groups are a selection of components, from which they have their order.
  refine ⟨fun group => mem_leafGroups, ?_, ?_, ?_, leafGroups_ne_nil h⟩
  · exact (Digraph.nodup_components _).sublist List.filter_sublist
  · exact (Digraph.components_disjoint inside).sublist List.filter_sublist
  · have ascending := Digraph.components_ascending inside (implicated_ascending g cycle)
    exact ascending.sublist List.filter_sublist

theorem leafGroups_exact_circleApi :
    ∃ cycle ∈ (ofApi circleApi "m").importGraph.cycles, "m/users" ∈ cycle ∧ "m/teams" ∈ cycle ∧
      (∀ group, group ∈ (ofApi circleApi "m").leafGroups cycle ↔
        (ofApi circleApi "m").IsLeafGroup cycle group) ∧
      ((ofApi circleApi "m").leafGroups cycle).Nodup ∧
      ((ofApi circleApi "m").leafGroups cycle).Pairwise List.Disjoint ∧
      ((ofApi circleApi "m").leafGroups cycle).Pairwise
        (FirstsRelated fun a b => a.text < b.text) ∧
      (ofApi circleApi "m").leafGroups cycle ≠ [] := by
  obtain ⟨cycle, listed, users, teams⟩ := exists_cycle_circleApi
  exact ⟨cycle, listed, users, teams, leafGroups_exact (ofApi circleApi "m") listed⟩

end ReferenceGraph

end SdkLayout
