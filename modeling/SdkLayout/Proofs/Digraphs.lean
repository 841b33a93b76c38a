import Mathlib.Data.List.Nodup
import Mathlib.Logic.Relation
import SdkLayout.Graph.References

/-!
# Components of directed graphs

The search behind `Digraph.components` is exact: it finds the nodes that a path leads to, so that a
component is a class of mutual reachability (`Digraph.mem_componentOf`). A graph of packages whose
`cycles` are empty therefore has no two packages that reach each other, and if no package imports
itself, no closed walk at all (`Digraph.acyclic_of_cycles_eq_nil`).

Paths are the reflexive transitive closure of `Digraph.Edge`. The search only ever enters unvisited
nodes, which is why `mem_gather` is about paths that stay inside a set of nodes.
-/

namespace SdkLayout

namespace Digraph

open Relation

variable {α : Type} [DecidableEq α]

/-- There is an edge from one node to another. -/
def Edge (g : Digraph α) (a b : α) : Prop :=
  (a, b) ∈ g.edges

instance (g : Digraph α) (a b : α) : Decidable (g.Edge a b) :=
  inferInstanceAs (Decidable ((a, b) ∈ g.edges))

/-- A path leads from one node to another. -/
def Reaches (g : Digraph α) : α → α → Prop :=
  ReflTransGen g.Edge

/-- Edges end in nodes of the graph. -/
def EdgesInside (g : Digraph α) : Prop :=
  ∀ a b, g.Edge a b → b ∈ g.nodes

theorem mem_successors {g : Digraph α} {a b : α} : b ∈ g.successors a ↔ g.Edge a b := by
  rw [successors, List.mem_map]
  constructor
  · rintro ⟨e, he, rfl⟩
    obtain ⟨hmem, hfst⟩ := List.mem_filter.1 he
    obtain rfl : e.1 = a := of_decide_eq_true hfst
    exact hmem
  · intro h
    exact ⟨(a, b), List.mem_filter.2 ⟨h, decide_eq_true rfl⟩, rfl⟩

/-! ### The search -/

/-- A path that ends elsewhere than in `a` can be cut behind its last visit to `a`: the rest starts
at another start node or at a successor of `a`, and avoids `a`. -/
theorem exists_path_avoiding {next : α → List α} {unvisited rest : List α} {a b x : α}
    (path : ReflTransGen (fun a b => b ∈ next a ∧ b ∈ unvisited) b x) (hb : b ∈ a :: rest)
    (hbu : b ∈ unvisited) (hx : x ≠ a) :
    ∃ c ∈ next a ++ rest, c ∈ unvisited.erase a ∧
      ReflTransGen (fun c d => d ∈ next c ∧ d ∈ unvisited.erase a) c x := by
  -- The induction adds edges at the end, and starts anew whenever the path comes back to `a`.
  induction path with
  | refl =>
    have hrest : b ∈ rest := (List.mem_cons.1 hb).resolve_left hx
    exact ⟨b, List.mem_append_right _ hrest, (List.mem_erase_of_ne hx).2 hbu, .refl⟩
  | @tail y z _ step ih =>
    have hz : z ∈ unvisited.erase a := (List.mem_erase_of_ne hx).2 step.2
    by_cases hy : y = a
    · subst hy
      exact ⟨z, List.mem_append_left _ step.1, hz, .refl⟩
    · obtain ⟨c, hc, hcu, path⟩ := ih hy
      exact ⟨c, hc, hcu, path.tail ⟨step.1, hz⟩⟩

/-- **The search is exact.** It gathers what a path leads to that starts at a pending node and never
leaves the unvisited ones. -/
theorem mem_gather {next : α → List α} {unvisited pending : List α} {x : α} :
    x ∈ gather next unvisited pending ↔
      ∃ a ∈ pending, a ∈ unvisited ∧
        ReflTransGen (fun a b => b ∈ next a ∧ b ∈ unvisited) a x := by
  fun_induction gather next unvisited pending with
  | case1 unvisited => simp
  | case2 unvisited a rest new ih =>
    rw [List.mem_cons]
    constructor
    · rintro (rfl | hx)
      · exact ⟨x, List.mem_cons_self, new, .refl⟩
      · obtain ⟨b, hb, hbu, path⟩ := ih.1 hx
        have path' : ReflTransGen (fun a b => b ∈ next a ∧ b ∈ unvisited) b x := by
          refine ReflTransGen.mono ?_ _ _ path
          exact fun _ _ h => ⟨h.1, List.mem_of_mem_erase h.2⟩
        have hbu' : b ∈ unvisited := List.mem_of_mem_erase hbu
        rcases List.mem_append.1 hb with hnext | hrest
        · exact ⟨a, List.mem_cons_self, new, .head ⟨hnext, hbu'⟩ path'⟩
        · exact ⟨b, List.mem_cons_of_mem _ hrest, hbu', path'⟩
    -- A path to another node can avoid `a`, which has been visited now.
    · rintro ⟨b, hb, hbu, path⟩
      by_cases hxa : x = a
      · exact Or.inl hxa
      · exact Or.inr (ih.2 (exists_path_avoiding path hb hbu hxa))
  | case3 unvisited a rest old ih =>
    rw [ih]
    constructor
    · rintro ⟨b, hb, hbu, path⟩
      exact ⟨b, List.mem_cons_of_mem _ hb, hbu, path⟩
    · rintro ⟨b, hb, hbu, path⟩
      have hne : b ≠ a := fun h => old (h ▸ hbu)
      exact ⟨b, (List.mem_cons.1 hb).resolve_left hne, hbu, path⟩

section Components

variable {g : Digraph α} (inside : g.EdgesInside)

include inside

omit [DecidableEq α] in
theorem mem_nodes_of_reaches {a b : α} (ha : a ∈ g.nodes) (h : g.Reaches a b) : b ∈ g.nodes := by
  cases h with
  | refl => exact ha
  | tail _ step => exact inside _ _ step

theorem mem_reached {a b : α} (ha : a ∈ g.nodes) : b ∈ g.reached a ↔ g.Reaches a b := by
  -- As edges end in nodes, staying inside the nodes is no restriction.
  have same : (fun a b => b ∈ g.successors a ∧ b ∈ g.nodes) = g.Edge := by
    funext a b
    rw [mem_successors]
    exact propext ⟨fun h => h.1, fun h => ⟨h, inside a b h⟩⟩
  rw [reached, mem_gather, same]
  constructor
  · rintro ⟨c, hc, -, path⟩
    obtain rfl : c = a := List.mem_singleton.1 hc
    exact path
  · intro path
    exact ⟨a, List.mem_singleton.2 rfl, ha, path⟩

/-! ### Components -/

omit inside in
/-- The component of a node. -/
def componentOf (g : Digraph α) (a : α) : List α :=
  componentOfRow g.reachedTable (a, g.reached a)

omit inside in
theorem mem_components {c : List α} :
    c ∈ g.components ↔ ∃ a ∈ g.nodes, c = g.componentOf a := by
  simp only [components, mem_distinct, List.mem_map, reachedTable, componentOf]
  constructor
  · rintro ⟨row, ⟨a, ha, rfl⟩, rfl⟩
    exact ⟨a, ha, rfl⟩
  · rintro ⟨a, ha, rfl⟩
    exact ⟨(a, g.reached a), ⟨a, ha, rfl⟩, rfl⟩

omit inside in
/-- A component is listed in the order of the nodes. -/
theorem componentOf_eq_filter (g : Digraph α) (a : α) :
    g.componentOf a =
      g.nodes.filter fun b => (g.reached a).contains b && (g.reached b).contains a := by
  rw [componentOf, componentOfRow, reachedTable, List.filter_map, List.map_map]
  exact List.map_id _

omit inside in
theorem sublist_nodes_of_mem_components {c : List α} (h : c ∈ g.components) :
    c.Sublist g.nodes := by
  obtain ⟨a, -, rfl⟩ := mem_components.1 h
  rw [componentOf_eq_filter]
  exact List.filter_sublist

omit inside in
/-- Every node gives its component, and each component is listed once. -/
theorem components_eq_distinct (g : Digraph α) :
    g.components = distinct (g.nodes.map g.componentOf) := by
  rw [components, reachedTable, List.map_map]
  rfl

omit inside in
/-- Components depend on the nodes, and on the edges as a set. -/
theorem components_congr {g' : Digraph α} (nodes : g.nodes = g'.nodes)
    (edges : ∀ a b, g.Edge a b ↔ g'.Edge a b) : g.components = g'.components := by
  have next : (fun a b => b ∈ g.successors a ∧ b ∈ g.nodes) =
      fun a b => b ∈ g'.successors a ∧ b ∈ g'.nodes := by
    funext a b
    rw [mem_successors, mem_successors, edges, nodes]
  have reached : ∀ a b, (g.reached a).contains b = (g'.reached a).contains b := by
    intro a b
    rw [Bool.eq_iff_iff, List.contains_iff_mem, List.contains_iff_mem, Digraph.reached,
      Digraph.reached, mem_gather, mem_gather, next, nodes]
  -- The order of the edges is lost here, as a component lists what is reached in the order of
  -- the nodes.
  have component : g.componentOf = g'.componentOf := by
    funext a
    rw [componentOf_eq_filter, componentOf_eq_filter, nodes]
    exact List.filter_congr fun b _ => by rw [reached a b, reached b a]
  rw [components_eq_distinct, components_eq_distinct, nodes, component]

/-- **Components are classes of mutual reachability.** -/
theorem mem_componentOf {a b : α} (ha : a ∈ g.nodes) :
    b ∈ g.componentOf a ↔ g.Reaches a b ∧ g.Reaches b a := by
  simp only [componentOf, componentOfRow, reachedTable, List.mem_map, List.mem_filter,
    Bool.and_eq_true, List.contains_iff_mem]
  constructor
  · rintro ⟨row, ⟨⟨c, hc, rfl⟩, hto, hback⟩, rfl⟩
    exact ⟨(mem_reached inside ha).1 hto, (mem_reached inside hc).1 hback⟩
  · rintro ⟨hto, hback⟩
    have hb : b ∈ g.nodes := mem_nodes_of_reaches inside ha hto
    exact ⟨(b, g.reached b), ⟨⟨b, hb, rfl⟩, (mem_reached inside ha).2 hto,
      (mem_reached inside hb).2 hback⟩, rfl⟩

/-- A node that shares no circle with another node is a component of its own. -/
theorem componentOf_eq_singleton (once : g.nodes.Nodup) {a : α} (ha : a ∈ g.nodes)
    (alone : ∀ b, g.Reaches a b → g.Reaches b a → b = a) : g.componentOf a = [a] := by
  have nodup : (g.componentOf a).Nodup :=
    once.sublist (sublist_nodes_of_mem_components (mem_components.2 ⟨a, ha, rfl⟩))
  have members : ∀ b, b ∈ g.componentOf a ↔ b ∈ [a] := by
    intro b
    rw [mem_componentOf inside ha, List.mem_singleton]
    constructor
    · rintro ⟨there, back⟩
      exact alone b there back
    · rintro rfl
      exact ⟨.refl, .refl⟩
  -- No node is listed twice, so that the members are all there is to know.
  exact List.perm_singleton.1
    ((List.perm_ext_iff_of_nodup nodup (List.nodup_singleton a)).2 members)

end Components

/-! ### Graphs without cycles -/

omit [DecidableEq α] in
theorem one_lt_length_of_mem {a b : α} {l : List α} (ha : a ∈ l) (hb : b ∈ l) (hne : a ≠ b) :
    1 < l.length := by
  match l with
  | [] => exact absurd ha (by simp)
  | [c] => exact absurd ((List.mem_singleton.1 ha).trans (List.mem_singleton.1 hb).symm) hne
  | _ :: _ :: _ => simp

section Cycles

variable {g : Digraph String} (inside : g.EdgesInside) (none : g.cycles = [])

include inside none

/-- Without cycles, packages that reach each other are the same. -/
theorem eq_of_cycles_eq_nil {a b : String} (ha : a ∈ g.nodes) (hto : g.Reaches a b)
    (hback : g.Reaches b a) : a = b := by
  by_cases hne : a = b
  · exact hne
  exfalso
  -- Their common component would have two members and be one of the cycles.
  have hlong : 1 < (g.componentOf a).length :=
    one_lt_length_of_mem ((mem_componentOf inside ha).2 ⟨.refl, .refl⟩)
      ((mem_componentOf inside ha).2 ⟨hto, hback⟩) hne
  have hmem : g.componentOf a ∈ g.cycles :=
    List.mem_filter.2 ⟨mem_components.2 ⟨a, ha, rfl⟩, decide_eq_true hlong⟩
  rw [none] at hmem
  exact absurd hmem (by simp)

/-- Without cycles and self imports, no walk returns to where it started. -/
theorem acyclic_of_cycles_eq_nil (irreflexive : ∀ a, ¬ g.Edge a a) (a : String) :
    ¬ TransGen g.Edge a a := by
  intro walk
  obtain ⟨b, path, last⟩ := TransGen.tail'_iff.1 walk
  have ha : a ∈ g.nodes := inside b a last
  obtain rfl : a = b := eq_of_cycles_eq_nil inside none ha path (.single last)
  exact irreflexive a last

end Cycles

/-- Packages that import nothing make no cycles. -/
theorem cycles_eq_nil_of_not_edge {g : Digraph String} (once : g.nodes.Nodup)
    (none : ∀ a b, ¬ g.Edge a b) : g.cycles = [] := by
  have inside : g.EdgesInside := fun a b h => absurd h (none a b)
  refine List.filter_eq_nil_iff.2 fun c hc => ?_
  obtain ⟨a, ha, rfl⟩ := mem_components.1 hc
  have alone : ∀ b, g.Reaches a b → g.Reaches b a → b = a := by
    intro b there _
    rcases there.cases_tail with same | ⟨c, -, last⟩
    · exact same
    · exact absurd last (none c b)
  rw [componentOf_eq_singleton inside once ha alone]
  simp

end Digraph

end SdkLayout
