import Mathlib
import SdkLayout.Proofs.Components
import SdkLayout.Proofs.PlanningFailures

/-!
# The import cycles of an API

Packages import each other as their types refer to each other, and the lists of cycles say exactly
which packages that closes into circles (`ReferenceGraph.importGraph_listsCircles`).

A cycle is a component of the import graph with more than one package. This leaves out the packages
that are components of their own, whether or not they lie on a circle; but a package that lies on a
circle imports another package of it, because no package imports itself. The length of a component
thus tells circles from single packages (`Digraph.exists_cycle_iff_transGen`).
-/

namespace SdkLayout

open Relation

/-- **The circles of a relation, listed.** -/
structure ListsCircles (r : String → String → Prop) (cycles : List (List String)) : Prop where
  /-- Two packages are in one list if each is reached from the other. -/
  together : ∀ a b, a ≠ b →
    ((∃ c ∈ cycles, a ∈ c ∧ b ∈ c) ↔ ReflTransGen r a b ∧ ReflTransGen r b a)
  /-- A package is listed if it comes back to itself. -/
  listed : ∀ a, (∃ c ∈ cycles, a ∈ c) ↔ TransGen r a a
  disjoint : cycles.Pairwise List.Disjoint
  /-- A package alone is no cycle. -/
  several : ∀ c ∈ cycles, 2 ≤ c.length
  /-- The packages of a cycle are listed once each, in ascending order. -/
  inside : ∀ c ∈ cycles, c.Pairwise (· < ·)
  /-- So are the cycles. -/
  among : cycles.Pairwise (· < ·)

namespace Digraph

variable {g : Digraph String} {a b : String} {c : List String}

theorem imports_iff : g.imports a b = true ↔ g.Edge a b :=
  List.contains_iff_mem

theorem mem_cycles : c ∈ g.cycles ↔ (∃ a ∈ g.nodes, c = g.componentOf a) ∧ 2 ≤ c.length := by
  rw [cycles, List.mem_filter, mem_components, decide_eq_true_eq]
  exact Iff.rfl

/-! ### Packages in one cycle -/

/-- No package is alone in a cycle. -/
theorem exists_other_of_mem_cycles (once : g.nodes.Nodup) (h : c ∈ g.cycles) (a : String) :
    ∃ b ∈ c, b ≠ a := by
  obtain ⟨component, several⟩ := List.mem_filter.1 h
  have distinct : c.Nodup := once.sublist (sublist_nodes_of_mem_components component)
  have count : 1 < c.toFinset.card := by
    rw [List.toFinset_card_of_nodup distinct]
    exact of_decide_eq_true several
  obtain ⟨b, hb, other⟩ := Finset.exists_mem_ne count a
  exact ⟨b, List.mem_toFinset.1 hb, other⟩

section Inside

variable (inside : g.EdgesInside)

include inside

/-- The packages of a cycle reach each other. -/
theorem reaches_of_mem_cycles (h : c ∈ g.cycles) (ha : a ∈ c) (hb : b ∈ c) : g.Reaches a b := by
  obtain ⟨⟨p, hp, rfl⟩, -⟩ := mem_cycles.1 h
  have back : g.Reaches a p := ((mem_componentOf inside hp).1 ha).2
  have there : g.Reaches p b := ((mem_componentOf inside hp).1 hb).1
  exact back.trans there

/-- A cycle has all packages that are reached from one of its own and that reach it. -/
theorem mem_of_mem_cycles (h : c ∈ g.cycles) (ha : a ∈ c) (there : g.Reaches a b)
    (back : g.Reaches b a) : b ∈ c := by
  obtain ⟨⟨p, hp, rfl⟩, -⟩ := mem_cycles.1 h
  obtain ⟨out, home⟩ := (mem_componentOf inside hp).1 ha
  exact (mem_componentOf inside hp).2 ⟨out.trans there, back.trans home⟩

/-- Different packages are in one cycle if each is reached from the other. -/
theorem exists_cycle_iff_reaches (ne : a ≠ b) :
    (∃ c ∈ g.cycles, a ∈ c ∧ b ∈ c) ↔ g.Reaches a b ∧ g.Reaches b a := by
  constructor
  · rintro ⟨c, hc, ha, hb⟩
    exact ⟨reaches_of_mem_cycles inside hc ha hb, reaches_of_mem_cycles inside hc hb ha⟩
  · rintro ⟨there, back⟩
    -- The way back ends in `a`, which therefore is a node, and has a component.
    have ha : a ∈ g.nodes := by
      rcases back.cases_tail with same | ⟨x, -, last⟩
      · exact absurd same ne
      · exact inside x a last
    have own : a ∈ g.componentOf a := (mem_componentOf inside ha).2 ⟨.refl, .refl⟩
    have other : b ∈ g.componentOf a := (mem_componentOf inside ha).2 ⟨there, back⟩
    have several : 2 ≤ (g.componentOf a).length := one_lt_length_of_mem own other ne
    exact ⟨g.componentOf a, mem_cycles.2 ⟨⟨a, ha, rfl⟩, several⟩, own, other⟩

/-- **The packages in cycles are those on circles**, where no package imports itself. -/
theorem exists_cycle_iff_transGen (once : g.nodes.Nodup) (irreflexive : ∀ a, ¬ g.Edge a a) :
    (∃ c ∈ g.cycles, a ∈ c) ↔ TransGen g.Edge a a := by
  constructor
  · rintro ⟨c, hc, ha⟩
    obtain ⟨b, hb, other⟩ := exists_other_of_mem_cycles once hc a
    have back : g.Reaches b a := reaches_of_mem_cycles inside hc hb ha
    -- A path to another package has an edge.
    have path : g.Reaches a b := reaches_of_mem_cycles inside hc ha hb
    rcases reflTransGen_iff_eq_or_transGen.1 path with same | there
    · exact absurd same other
    · exact there.trans_left back
  · intro circle
    obtain ⟨b, first, rest⟩ := TransGen.head'_iff.1 circle
    have ne : a ≠ b := by
      rintro rfl
      exact irreflexive a first
    obtain ⟨c, hc, ha, -⟩ := (exists_cycle_iff_reaches inside ne).2 ⟨.single first, rest⟩
    exact ⟨c, hc, ha⟩

/-! ### The order of cycles -/

theorem cycles_disjoint : g.cycles.Pairwise List.Disjoint :=
  (components_disjoint inside).sublist List.filter_sublist

/-- Cycles with ascending first packages ascend. -/
theorem cycles_ascending (ascending : g.nodes.Pairwise (· < ·)) :
    g.cycles.Pairwise (· < ·) := by
  have firsts : g.cycles.Pairwise (FirstsRelated (· < ·)) :=
    (components_ascending inside ascending).sublist List.filter_sublist
  refine firsts.imp fun {c d} related => ?_
  obtain ⟨a, b, hc, hd, hab⟩ := related
  obtain ⟨c', rfl⟩ := List.head?_eq_some_iff.1 hc
  obtain ⟨d', rfl⟩ := List.head?_eq_some_iff.1 hd
  exact List.cons_lt_cons_iff.2 (.inl hab)

end Inside

end Digraph

namespace ReferenceGraph

variable {api : Api} {importPath : String} {g : ReferenceGraph}

theorem ascending_importGraph (g : ReferenceGraph) : g.importGraph.nodes.Pairwise (· < ·) :=
  sortedStrings_ascending _

/-- A package imports another one if a type of it refers to a type of the other. -/
theorem imports_importGraph_ofApi {a b : String} :
    (ofApi api importPath).importGraph.imports a b = true ↔
      a ≠ b ∧ ∃ s t, api.Refers s t ∧ api.packageOf importPath s = some a ∧
        api.packageOf importPath t = some b := by
  have package : ∀ id, (ofApi api importPath).packageOf id = api.packageOf importPath id :=
    packageOf_ofApi api importPath
  rw [Digraph.imports_iff, edge_importGraph]
  refine and_congr_right fun ne => ?_
  constructor
  · rintro ⟨⟨s, t⟩, refers, hs, ht⟩
    rw [package] at hs ht
    exact ⟨s, t, ((mem_references_ofApi api importPath).1 refers).1, hs, ht⟩
  · rintro ⟨s, t, refers, hs, ht⟩
    -- Types of different packages are different types, so that the reference has been kept.
    have different : s ≠ t := by
      rintro rfl
      exact ne (Option.some.inj (hs.symm.trans ht))
    refine ⟨(s, t), (mem_references_ofApi api importPath).2 ⟨refers, different⟩, ?_, ?_⟩
    · rw [package, hs]
    · rw [package, ht]

/-- **The cycles of packages are the circles of imports**, and imports are what references between
types of different packages cause. -/
theorem importGraph_listsCircles (h : build api importPath = .ok g) :
    (∀ a b, g.importGraph.imports a b = true ↔
      a ≠ b ∧ ∃ s t, api.Refers s t ∧ api.packageOf importPath s = some a ∧
        api.packageOf importPath t = some b) ∧
    ListsCircles (fun a b => g.importGraph.imports a b = true) g.importGraph.cycles := by
  have inside : g.importGraph.EdgesInside := edgesInside_importGraph g
  have ascending : g.importGraph.nodes.Pairwise (· < ·) := ascending_importGraph g
  have once : g.importGraph.nodes.Nodup := nodup_sortedStrings _
  -- The import relation is the edge relation of a digraph, whose components are known.
  have edges : (fun a b => g.importGraph.imports a b = true) = g.importGraph.Edge := by
    funext a b
    exact propext Digraph.imports_iff
  constructor
  · obtain ⟨-, rfl⟩ := build_eq_ok_iff.1 h
    exact fun a b => imports_importGraph_ofApi
  · rw [edges]
    exact
      { together := fun a b ne => Digraph.exists_cycle_iff_reaches inside ne
        listed := fun a =>
          Digraph.exists_cycle_iff_transGen inside once (not_edge_importGraph_self g)
        disjoint := Digraph.cycles_disjoint inside
        several := fun c hc => (Digraph.mem_cycles.1 hc).2
        inside := fun c hc =>
          ascending.sublist
            (Digraph.sublist_nodes_of_mem_components (List.mem_filter.1 hc).1)
        among := Digraph.cycles_ascending inside ascending }

/-- An API with a circle of three packages, and a package outside that imports one of them. -/
def circleApi : Api :=
  Api.empty (.ofIdentifier "acme")
    |>.addObject "Client" .root ["User", "Client"]
    |>.addObject "User" (.ofIdentifiers ["users"] none) ["Org"]
    |>.addObject "Org" (.ofIdentifiers ["orgs"] none) ["Team", "Org"]
    |>.addObject "Team" (.ofIdentifiers ["teams"] none) ["User"]

theorem exists_cycle_circleApi :
    ∃ c ∈ (ofApi circleApi "m").importGraph.cycles, "m/users" ∈ c ∧ "m/teams" ∈ c := by
  have first : (ofApi circleApi "m").importGraph.Edge "m/users" "m/orgs" := by decide +kernel
  have second : (ofApi circleApi "m").importGraph.Edge "m/orgs" "m/teams" := by decide +kernel
  have third : (ofApi circleApi "m").importGraph.Edge "m/teams" "m/users" := by decide +kernel
  have inside := edgesInside_importGraph (ofApi circleApi "m")
  refine (Digraph.exists_cycle_iff_reaches inside (by decide)).2 ⟨?_, .single third⟩
  exact .head first (.single second)

theorem importGraph_listsCircles_circleApi :
    ∃ g, build circleApi "m" = .ok g ∧
      ((∀ a b, g.importGraph.imports a b = true ↔
        a ≠ b ∧ ∃ s t, circleApi.Refers s t ∧ circleApi.packageOf "m" s = some a ∧
          circleApi.packageOf "m" t = some b) ∧
      ListsCircles (fun a b => g.importGraph.imports a b = true) g.importGraph.cycles) ∧
      (∃ c ∈ g.importGraph.cycles, "m/users" ∈ c ∧ "m/teams" ∈ c) ∧
      ¬ ∃ c ∈ g.importGraph.cycles, "m" ∈ c := by
  have known : circleApi.ReferencesKnown := by decide +kernel
  have built : build circleApi "m" = .ok (ofApi circleApi "m") := build_of_known known "m"
  have exact := importGraph_listsCircles built
  have unimported : ∀ e ∈ (ofApi circleApi "m").importGraph.edges, e.2 ≠ "m" := by decide +kernel
  refine ⟨_, built, exact, exists_cycle_circleApi, ?_⟩
  -- Nothing imports the root package, so that it does not come back to itself.
  rw [exact.2.listed]
  intro circle
  obtain ⟨a, -, last⟩ := TransGen.tail'_iff.1 circle
  exact unimported (a, "m") (Digraph.imports_iff.1 last) rfl

end ReferenceGraph

end SdkLayout
