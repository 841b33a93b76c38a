import SdkLayout.Proofs.CycleReports

/-!
# Definitions that differ in order alone

A definition is a document, and a document has an order that means nothing: that of the entries of
its tables of types and errors, of its variables, of the references of a type. `Api.Reordered`
relates definitions that differ in this order alone.

Resolution runs in step on both (`Api.resolveCycles_reordered`). What it looks at are lists in
document order all the same, so each of them has to lose its order before it counts: the reference
graph is read as a set of references (`ReferenceGraph.Alike`), and everything computed from it, from
the cycles to the groups that move, is sorted or starts from something sorted.
-/

namespace SdkLayout

/-! ### Reordered definitions -/

/-- Declarations that differ in the order of their references alone. -/
structure TypeDeclaration.Reordered (t u : TypeDeclaration) : Prop where
  references : t.references.toList.Perm u.references.toList
  rest : u = { t with references := u.references }

instance (t u : TypeDeclaration) : Decidable (t.Reordered u) :=
  decidable_of_iff
    (t.references.toList.Perm u.references.toList ∧ u = { t with references := u.references })
    ⟨fun h => ⟨h.1, h.2⟩, fun h => ⟨h.references, h.rest⟩⟩

theorem TypeDeclaration.Reordered.symm {t u : TypeDeclaration} (h : t.Reordered u) :
    u.Reordered t where
  references := h.references.symm
  rest := by rw [h.rest]

namespace Api

/-- Definitions that differ in the order of types, errors, variables and references alone. -/
structure Reordered (a b : Api) : Prop where
  types : a.types.keys.Perm b.types.keys
  declarations : ∀ id t u, a.types.get? id = some t → b.types.get? id = some u → t.Reordered u
  errors : a.errors.entries.Perm b.errors.entries
  globals : a.globals.Perm b.globals
  rest : b = { a with types := b.types, errors := b.errors, globals := b.globals }

instance (a b : Api) : Decidable (a.Reordered b) :=
  decidable_of_iff
    (a.types.keys.Perm b.types.keys ∧
      (∀ e ∈ a.types.entries, ∀ e' ∈ b.types.entries, e.1 = e'.1 → e.2.Reordered e'.2) ∧
      a.errors.entries.Perm b.errors.entries ∧ a.globals.Perm b.globals ∧
      b = { a with types := b.types, errors := b.errors, globals := b.globals })
    ⟨fun ⟨types, declarations, errors, globals, rest⟩ =>
      { types
        declarations := fun id t u ht hu => declarations (id, t) (Table.get?_eq_some_iff.1 ht)
          (id, u) (Table.get?_eq_some_iff.1 hu) rfl
        errors
        globals
        rest },
    fun h => ⟨h.types, fun e he e' he' same => h.declarations e.1 e.2 e'.2
        (Table.get?_eq_some_iff.2 he) (Table.get?_eq_some_iff.2 (same ▸ he')),
      h.errors, h.globals, h.rest⟩⟩

namespace Reordered

variable {a b : Api} (h : a.Reordered b)

include h

theorem symm : b.Reordered a where
  types := h.types.symm
  declarations id t u ht hu := (h.declarations id u t hu ht).symm
  errors := h.errors.symm
  globals := h.globals.symm
  rest := by rw [h.rest]

theorem exists_get? {id : TypeId} {t : TypeDeclaration} (ht : a.types.get? id = some t) :
    ∃ u, b.types.get? id = some u ∧ t.Reordered u := by
  obtain ⟨u, hu⟩ := Table.mem_keys_iff.1 (h.types.mem_iff.1 (Table.mem_keys_of_get? ht))
  exact ⟨u, hu, h.declarations id t u ht hu⟩

/-- What does not depend on the order of references is the same for every type. -/
theorem map_get? {β : Type} {f : TypeDeclaration → β} (hf : ∀ t u, t.Reordered u → f t = f u)
    (id : TypeId) : (a.types.get? id).map f = (b.types.get? id).map f := by
  cases ht : a.types.get? id with
  | some t =>
    obtain ⟨u, hu, same⟩ := h.exists_get? ht
    rw [hu, Option.map_some, Option.map_some, hf t u same]
  | none =>
    cases hu : b.types.get? id with
    | none => rfl
    | some u =>
      obtain ⟨t, ht', -⟩ := h.symm.exists_get? hu
      exact absurd (ht.symm.trans ht') (by simp)

theorem path_get? (id : TypeId) :
    (a.types.get? id).map TypeDeclaration.path = (b.types.get? id).map TypeDeclaration.path :=
  h.map_get? (fun t u same => by rw [same.rest]) id

theorem refers_of_refers {x y : TypeId} (refers : a.Refers x y) : b.Refers x y := by
  obtain ⟨t, ht, hy⟩ := refers
  obtain ⟨u, hu, same⟩ := h.exists_get? ht
  exact ⟨u, hu, same.references.mem_iff.1 hy⟩

theorem refers_iff {x y : TypeId} : a.Refers x y ↔ b.Refers x y :=
  ⟨h.refers_of_refers, h.symm.refers_of_refers⟩

theorem referencesKnown (known : a.ReferencesKnown) : b.ReferencesKnown := by
  rw [referencesKnown_iff] at known ⊢
  exact fun x y refers => h.types.mem_iff.1 (known x y (h.refers_iff.2 refers))

theorem mapPaths (f : TypeId → DeclarationPath → DeclarationPath) :
    (a.mapPaths f).Reordered (b.mapPaths f) where
  types := by
    rw [keys_mapPaths, keys_mapPaths]
    exact h.types
  declarations id t u ht hu := by
    rw [get?_mapPaths] at ht hu
    obtain ⟨t', ht', rfl⟩ := Option.map_eq_some_iff.1 ht
    obtain ⟨u', hu', rfl⟩ := Option.map_eq_some_iff.1 hu
    have same := h.declarations id t' u' ht' hu'
    exact ⟨same.references, by rw [same.rest]⟩
  errors := h.errors
  globals := h.globals
  rest := by
    rw [h.rest]
    rfl

end Reordered

end Api

/-! ### Graphs -/

namespace ReferenceGraph

/-- Graphs with the same packages and, as a set, the same references. -/
structure Alike (g g' : ReferenceGraph) : Prop where
  packages : ∀ id, g.packageOf id = g'.packageOf id
  references : ∀ r, r ∈ g.references ↔ r ∈ g'.references

theorem alike_of_reordered {a b : Api} (h : a.Reordered b) (importPath : String) :
    (ofApi a importPath).Alike (ofApi b importPath) where
  packages id := by
    rw [packageOf_ofApi, packageOf_ofApi]
    exact h.map_get? (fun t u same => by rw [same.rest]) id
  references r := by
    rw [mem_references_ofApi, mem_references_ofApi, h.refers_iff]

namespace Alike

variable {g g' : ReferenceGraph} (h : g.Alike g')

include h

theorem mem_crossReferences {r : TypeId × TypeId} :
    r ∈ g.crossReferences ↔ r ∈ g'.crossReferences := by
  rw [crossReferences, crossReferences, List.mem_filter, List.mem_filter, h.references,
    h.packages, h.packages]

theorem cycles : g.importGraph.cycles = g'.importGraph.cycles := by
  -- The nodes are sorted, the edges count as a set.
  have nodes : g.importGraph.nodes = g'.importGraph.nodes := by
    refine sortedStrings_congr fun p => ?_
    have hg := mem_nodes_importGraph (g := g) (p := p)
    have hg' := mem_nodes_importGraph (g := g') (p := p)
    rw [importGraph, mem_sortedStrings] at hg hg'
    rw [hg, hg']
    exact exists_congr fun id => by rw [h.packages]
  have edges : ∀ p q, g.importGraph.Edge p q ↔ g'.importGraph.Edge p q := by
    intro p q
    rw [edge_importGraph, edge_importGraph]
    refine and_congr_right fun _ => exists_congr fun r => ?_
    rw [h.references, h.packages, h.packages]
  rw [Digraph.cycles, Digraph.cycles, Digraph.components_congr nodes edges]

theorem inCycle (cycle : List String) (id : TypeId) : g.inCycle cycle id = g'.inCycle cycle id := by
  rw [ReferenceGraph.inCycle, ReferenceGraph.inCycle, h.packages]

theorem implicated (cycle : List String) : g.implicated cycle = g'.implicated cycle := by
  -- The list is sorted and without duplicates, so its members determine it.
  refine mergeSort_distinct_congr_of_key Id.le_iff (fun a b => Id.ext_iff.2) ?_
  intro id
  have hg : id ∈ g.implicated cycle ↔ _ := mem_implicated
  have hg' : id ∈ g'.implicated cycle ↔ _ := mem_implicated
  rw [ReferenceGraph.implicated, List.mem_mergeSort, mem_distinct] at hg hg'
  rw [hg, hg']
  refine exists_congr fun r => and_congr h.mem_crossReferences ?_
  rw [h.inCycle, h.inCycle]

theorem leafGroups (cycle : List String) : g.leafGroups cycle = g'.leafGroups cycle := by
  have nodes : (g.among (g.implicated cycle)).nodes = (g'.among (g'.implicated cycle)).nodes :=
    h.implicated cycle
  have mem : ∀ r, r ∈ (g.among (g.implicated cycle)).edges ↔
      r ∈ (g'.among (g'.implicated cycle)).edges := by
    intro r
    rw [among, among, List.mem_filter, List.mem_filter, h.references, h.implicated]
  -- Whether an edge leaves a component is a question about the set of edges.
  have sink : (g.among (g.implicated cycle)).isSink = (g'.among (g'.implicated cycle)).isSink := by
    funext component
    rw [Bool.eq_iff_iff, Digraph.isSink, Digraph.isSink, List.all_eq_true, List.all_eq_true]
    exact forall_congr' fun r => by rw [mem r]
  rw [ReferenceGraph.leafGroups, ReferenceGraph.leafGroups, Digraph.sinks, Digraph.sinks, sink,
    Digraph.components_congr nodes fun a b => mem (a, b)]

end Alike

end ReferenceGraph

/-! ### Resolution in step -/

namespace Relocating

/-- States of resolution that differ in the order of the definition alone. -/
structure Alike (s t : Relocating) : Prop where
  relocations : s.relocations = t.relocations
  api : s.api.Reordered t.api

namespace Alike

variable {s t : Relocating} (h : s.Alike t)

include h

theorem pathOf? : s.pathOf? = t.pathOf? :=
  funext h.api.path_get?

theorem hasMoved : s.hasMoved = t.hasMoved := by
  funext id
  rw [Relocating.hasMoved, Relocating.hasMoved, h.relocations]

theorem destination? (group : List TypeId) : s.destination? group = t.destination? group := by
  rw [Relocating.destination?, Relocating.destination?, movedPaths, movedPaths, h.pathOf?,
    h.hasMoved]

theorem relocate (cycle : List String) (origin destination : DeclarationPath) (id : TypeId) :
    (s.relocate cycle origin destination id).Alike (t.relocate cycle origin destination id) where
  relocations := by
    rw [relocations_relocate, relocations_relocate, h.relocations]
  api := by
    rw [api_relocate, api_relocate]
    exact h.api.mapPaths _

theorem move (cycle : List String) (destination : DeclarationPath) (id : TypeId) :
    (s.move cycle destination id).Alike (t.move cycle destination id) := by
  rw [Relocating.move, Relocating.move, h.pathOf?]
  split
  · exact h
  · split
    · exact h
    · exact h.relocate ..

theorem moveGroup (cycle group) : (s.moveGroup cycle group).Alike (t.moveGroup cycle group) := by
  rw [Relocating.moveGroup, Relocating.moveGroup, h.destination?]
  split
  · exact h
  · exact List.foldl_rel h fun id _ _ _ h => h.move ..

/-- The rounds of two graphs that are alike move the same. -/
theorem moveAll {g g' : ReferenceGraph} (graphs : g.Alike g') (cycles : List (List String)) :
    (s.moveAll g cycles).Alike (t.moveAll g' cycles) := by
  refine List.foldl_rel h fun cycle _ s t h => ?_
  rw [moveLeaves, moveLeaves, graphs.leafGroups]
  exact List.foldl_rel h fun group _ _ _ h => h.moveGroup ..

end Alike

/-- If the loop succeeds in one state, it does in every state that is alike, with the same
report. -/
theorem resolve_alike {importPath : String} {rounds : Nat} {s t : Relocating} (sound : s.Sound)
    (sound' : t.Sound) (h : s.Alike t) {corrected : Api} {report : CycleReport}
    (resolved : resolve importPath rounds s sound = .ok (corrected, report)) :
    ∃ corrected', resolve importPath rounds t sound' = .ok (corrected', report) ∧
      corrected.Reordered corrected' := by
  -- The first state decides how the loop goes on, and the other one follows it.
  fun_induction resolve importPath rounds s sound generalizing t with
  | case1 => exact absurd resolved (by simp)
  | case2 rounds s sound g built acyclic =>
    obtain ⟨known, rfl⟩ := ReferenceGraph.build_eq_ok_iff.1 built
    have graphs := ReferenceGraph.alike_of_reordered h.api importPath
    obtain ⟨rfl, rfl⟩ := Prod.mk.inj (Except.ok.inj resolved)
    refine ⟨t.api, ?_, h.api⟩
    rw [resolve_of_acyclic sound' (ReferenceGraph.build_of_known (h.api.referencesKnown known) _)
      (graphs.cycles ▸ acyclic), h.relocations]
  | case3 => exact absurd resolved (by simp)
  | case4 rounds s sound g built first others cyclic next moved =>
    rename_i ih
    obtain ⟨known, rfl⟩ := ReferenceGraph.build_eq_ok_iff.1 built
    have graphs := ReferenceGraph.alike_of_reordered h.api importPath
    have cyclic' := graphs.cycles.symm.trans cyclic
    have alike := h.moveAll graphs (first :: others)
    rw [resolve_of_moved sound' (ReferenceGraph.build_of_known (h.api.referencesKnown known) _)
      (by rw [cyclic']; simp) (by rwa [cyclic', ← alike.relocations, ← h.relocations])]
    simp only [cyclic']
    exact ih _ alike resolved

end Relocating

/-- **Resolution does not depend on the order of a definition.** -/
theorem Api.resolveCycles_reordered {a b : Api} (h : a.Reordered b) {importPath : String}
    {corrected : Api} {report : CycleReport}
    (resolved : a.resolveCycles importPath = .ok (corrected, report)) :
    ∃ corrected', b.resolveCycles importPath = .ok (corrected', report) ∧
      corrected.Reordered corrected' :=
  Relocating.resolve_alike (.initial a) (.initial b) ⟨rfl, h⟩ resolved

end SdkLayout
