import Mathlib
import SdkLayout.Proofs.Digraphs

/-!
# Components side by side

How the components of a graph lie to each other, and which of them no edge leaves.

* Components are classes, so that two of them have no node in common (`components_disjoint`).
* Each component is listed where its first node stands (`head?_componentOf`). If the nodes are in
  ascending order, so are the components, by their first nodes (`components_ascending`), and so is
  each of them inside.
* The sinks are the components that are closed under edges (`mem_sinks`). A graph with nodes has a
  sink (`sinks_ne_nil`): among finitely many nodes there is one that is reached from wherever it
  leads to.
-/

namespace SdkLayout

open Relation

/-- The first member of one list is related to the first member of another. -/
def FirstsRelated {α : Type} (r : α → α → Prop) (l m : List α) : Prop :=
  ∃ a b, l.head? = some a ∧ m.head? = some b ∧ r a b

/-- A relation without circles leaves one member of a list related to none of the members. -/
theorem exists_leaf {α : Type} {r : α → α → Prop} (acyclic : ∀ a, ¬ TransGen r a a) {l : List α}
    (ne : l ≠ []) : ∃ a ∈ l, ∀ b ∈ l, ¬ r a b := by
  -- On the members of the list the relation, taken the other way round, is well-founded.
  let below : {a // a ∈ l} → {a // a ∈ l} → Prop := fun x y => TransGen r y.1 x.1
  have : Finite {a // a ∈ l} := (List.finite_toSet l).to_subtype
  have : IsTrans {a // a ∈ l} below := ⟨fun _ _ _ h h' => h'.trans h⟩
  have : Std.Irrefl below := ⟨fun x h => acyclic x.1 h⟩
  have wf : WellFounded below := Finite.wellFounded_of_trans_of_irrefl below
  obtain ⟨a, ha⟩ := List.exists_mem_of_ne_nil l ne
  obtain ⟨m, -, least⟩ := wf.has_min Set.univ ⟨⟨a, ha⟩, trivial⟩
  exact ⟨m.1, m.2, fun b hb h => least ⟨b, hb⟩ trivial (.single h)⟩

namespace Digraph

variable {α : Type} [DecidableEq α] {g : Digraph α} (inside : g.EdgesInside)

include inside

/-! ### Classes -/

/-- Two nodes have the same component if each is reached from the other. -/
theorem componentOf_eq_iff {a b : α} (ha : a ∈ g.nodes) (hb : b ∈ g.nodes) :
    g.componentOf b = g.componentOf a ↔ g.Reaches a b ∧ g.Reaches b a := by
  constructor
  · intro same
    have own : b ∈ g.componentOf b := (mem_componentOf inside hb).2 ⟨.refl, .refl⟩
    rw [same] at own
    exact (mem_componentOf inside ha).1 own
  · rintro ⟨there, back⟩
    -- Components are the same list, not only the same set: both filter the nodes in one order.
    rw [componentOf_eq_filter, componentOf_eq_filter]
    refine List.filter_congr fun c hc => ?_
    rw [Bool.eq_iff_iff, Bool.and_eq_true, Bool.and_eq_true, List.contains_iff_mem,
      List.contains_iff_mem, List.contains_iff_mem, List.contains_iff_mem,
      mem_reached inside ha, mem_reached inside hb, mem_reached inside hc, mem_reached inside hc]
    constructor
    · rintro ⟨onward, home⟩
      exact ⟨there.trans onward, home.trans back⟩
    · rintro ⟨onward, home⟩
      exact ⟨back.trans onward, home.trans there⟩

/-- A component is the component of each of its nodes. -/
theorem componentOf_eq_of_mem {a b : α} (ha : a ∈ g.nodes) (hb : b ∈ g.componentOf a) :
    g.componentOf b = g.componentOf a := by
  obtain ⟨there, back⟩ := (mem_componentOf inside ha).1 hb
  have hb' : b ∈ g.nodes := mem_nodes_of_reaches inside ha there
  exact (componentOf_eq_iff inside ha hb').2 ⟨there, back⟩

omit inside in
/-- Components are listed once each. -/
theorem nodup_components (g : Digraph α) : g.components.Nodup := by
  rw [components_eq_distinct]
  exact nodup_distinct _

/-- **Components have no node in common.** -/
theorem components_disjoint : g.components.Pairwise List.Disjoint := by
  refine g.nodup_components.pairwise_of_forall_ne fun c hc d hd apart => ?_
  obtain ⟨a, ha, rfl⟩ := mem_components.1 hc
  obtain ⟨b, hb, rfl⟩ := mem_components.1 hd
  -- A node of both would make them the same.
  intro x hxa hxb
  refine apart ?_
  rw [← componentOf_eq_of_mem inside ha hxa, ← componentOf_eq_of_mem inside hb hxb]

/-! ### The order of components -/

/-- The first node that has a component is the first node of the component. -/
theorem head?_componentOf {a : α} (first : a ∈ distinctBy g.componentOf g.nodes) :
    (g.componentOf a).head? = some a := by
  have ha : a ∈ g.nodes := (distinctBy_sublist g.componentOf g.nodes).subset first
  have nodes : g.componentOf a =
      g.nodes.filter fun b => decide (g.componentOf b = g.componentOf a) := by
    -- A node is in the component if it has the same one.
    conv_lhs => rw [componentOf_eq_filter]
    refine List.filter_congr fun b hb => ?_
    rw [Bool.eq_iff_iff, Bool.and_eq_true, List.contains_iff_mem, List.contains_iff_mem,
      mem_reached inside ha, mem_reached inside hb, decide_eq_true_eq,
      componentOf_eq_iff inside ha hb]
  rw [nodes, List.head?_filter]
  exact mem_distinctBy.1 first

/-- **Components are in the order of their first nodes.** -/
theorem components_ascending {r : α → α → Prop} (ascending : g.nodes.Pairwise r) :
    g.components.Pairwise (FirstsRelated r) := by
  rw [components_eq_distinct, ← map_distinctBy, List.pairwise_map]
  have firsts : (distinctBy g.componentOf g.nodes).Pairwise r :=
    ascending.sublist (distinctBy_sublist g.componentOf g.nodes)
  refine firsts.imp_of_mem fun {a b} ha hb hab => ?_
  exact ⟨a, b, head?_componentOf inside ha, head?_componentOf inside hb, hab⟩

/-! ### Sinks -/

omit inside in
theorem isSink_iff {c : List α} : g.isSink c = true ↔ ∀ a ∈ c, ∀ b, g.Edge a b → b ∈ c := by
  rw [isSink, List.all_eq_true]
  constructor
  · intro all a ha b hab
    have h := all (a, b) hab
    rw [Bool.or_eq_true, Bool.not_eq_true', List.contains_iff_mem] at h
    refine h.resolve_left fun outside => ?_
    rw [List.contains_iff_mem.2 ha] at outside
    exact absurd outside (by simp)
  · rintro closed ⟨a, b⟩ hab
    -- An edge that starts elsewhere does not matter.
    by_cases ha : a ∈ c
    · simp [closed a ha b hab]
    · simp [ha]

omit inside in
/-- Sinks are the components that no edge leaves. -/
theorem mem_sinks {c : List α} :
    c ∈ g.sinks ↔ ∃ a ∈ g.nodes, c = g.componentOf a ∧ ∀ b ∈ c, ∀ d, g.Edge b d → d ∈ c := by
  rw [sinks, List.mem_filter, mem_components, isSink_iff]
  constructor
  · rintro ⟨⟨a, ha, rfl⟩, closed⟩
    exact ⟨a, ha, rfl, closed⟩
  · rintro ⟨a, ha, rfl, closed⟩
    exact ⟨⟨a, ha, rfl⟩, closed⟩

/-- **A graph with nodes has a sink.** -/
theorem sinks_ne_nil (ne : g.nodes ≠ []) : g.sinks ≠ [] := by
  -- Leading to a node without a way back is a relation without circles.
  let leaves : α → α → Prop := fun a b => g.Reaches a b ∧ ¬ g.Reaches b a
  have onward : ∀ {a b}, TransGen leaves a b → leaves a b := by
    intro a b walk
    induction walk with
    | single h => exact h
    | tail _ last ih => exact ⟨ih.1.trans last.1, fun back => last.2 (back.trans ih.1)⟩
  have acyclic : ∀ a, ¬ TransGen leaves a a := fun a walk => (onward walk).2 (onward walk).1
  obtain ⟨a, ha, leaf⟩ := exists_leaf acyclic ne
  -- Wherever a node leads that leads nowhere for good, there is a way back.
  have back : ∀ b, g.Reaches a b → g.Reaches b a := by
    intro b there
    by_contra lost
    exact leaf b (mem_nodes_of_reaches inside ha there) ⟨there, lost⟩
  refine List.ne_nil_of_mem (mem_sinks.2 ⟨a, ha, rfl, fun b hb d hbd => ?_⟩)
  have there : g.Reaches a d := ((mem_componentOf inside ha).1 hb).1.tail hbd
  exact (mem_componentOf inside ha).2 ⟨there, back d there⟩

end Digraph

end SdkLayout
