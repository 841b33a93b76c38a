import SdkLayout.Graph.References
import SdkLayout.Proofs.Digraphs

/-!
# What the reference graph holds

`ReferenceGraph.build` succeeds if and only if no type refers to a missing type
(`ReferenceGraph.build_eq_ok_iff`). The graph then has the package of every type (`packageOf_ofApi`)
and exactly the references between different types (`mem_references_ofApi`).

The import graph has an edge wherever a reference leaves a package (`edge_importGraph`). Its edges
end in nodes, and no package imports itself, so that a graph without cycles has no closed walk at
all (`Digraph.acyclic_of_cycles_eq_nil`).
-/

namespace SdkLayout

/-- No type refers to a type that is missing. -/
def Api.ReferencesKnown (api : Api) : Prop :=
  ∀ e ∈ api.types.entries, ∀ id ∈ e.2.references.toList, id ∈ api.types.keys

instance (api : Api) : Decidable api.ReferencesKnown :=
  inferInstanceAs (Decidable
    (∀ e ∈ api.types.entries, ∀ id ∈ e.2.references.toList, id ∈ api.types.keys))

/-- One type refers to another one. -/
def Api.Refers (api : Api) (a b : TypeId) : Prop :=
  ∃ t, api.types.get? a = some t ∧ b ∈ t.references.toList

namespace ReferenceGraph

/-! ### Collecting references -/

/-- The references of one type to others. -/
def ownReferences (id : TypeId) (t : TypeDeclaration) : List (TypeId × TypeId) :=
  (t.references.toList.filter fun r => decide (r ≠ id)).map fun r => (id, r)

theorem mem_ownReferences {id : TypeId} {t : TypeDeclaration} {a b : TypeId} :
    (a, b) ∈ ownReferences id t ↔ a = id ∧ b ∈ t.references.toList ∧ b ≠ id := by
  simp only [ownReferences, List.mem_map, List.mem_filter, decide_eq_true_eq, Prod.mk.injEq]
  constructor
  · rintro ⟨r, ⟨hr, hne⟩, rfl, rfl⟩
    exact ⟨rfl, hr, hne⟩
  · rintro ⟨rfl, hb, hne⟩
    exact ⟨b, ⟨hb, hne⟩, rfl, rfl⟩

theorem collect_of_known {known : TypeId → Bool} {id : TypeId} {refs : List TypeId}
    (h : ∀ r ∈ refs, known r = true) :
    collect known id refs =
      .ok ((refs.filter fun r => decide (r ≠ id)).map fun r => (id, r)) := by
  induction refs with
  | nil => rfl
  | cons r rest ih =>
    obtain ⟨hr, hrest⟩ := List.forall_mem_cons.1 h
    rw [collect, if_pos hr, ih hrest]
    -- A reference to oneself is looked up like any other, but not kept.
    by_cases same : r = id
    · rw [List.filter_cons_of_neg (by simpa using same)]
      simp only [if_pos same]
    · rw [List.filter_cons_of_pos (by simpa using same), List.map_cons]
      simp only [if_neg same]

theorem known_of_collect {known : TypeId → Bool} {id : TypeId} {refs : List TypeId}
    {out : List (TypeId × TypeId)} (h : collect known id refs = .ok out) :
    ∀ r ∈ refs, known r = true := by
  induction refs generalizing out with
  | nil => exact fun r hr => absurd hr (by simp)
  | cons r rest ih =>
    rw [collect] at h
    split at h
    · next hr =>
      split at h
      · next more hmore => exact List.forall_mem_cons.2 ⟨hr, ih hmore⟩
      · exact absurd h (by simp)
    · exact absurd h (by simp)

theorem collectAll_of_known {known : TypeId → Bool} {entries : List (TypeId × TypeDeclaration)}
    (h : ∀ e ∈ entries, ∀ r ∈ e.2.references.toList, known r = true) :
    collectAll known entries = .ok (entries.flatMap fun e => ownReferences e.1 e.2) := by
  induction entries with
  | nil => rfl
  | cons e rest ih =>
    obtain ⟨he, hrest⟩ := List.forall_mem_cons.1 h
    rw [collectAll, collect_of_known he, ih hrest, List.flatMap_cons]
    rfl

theorem known_of_collectAll {known : TypeId → Bool} {entries : List (TypeId × TypeDeclaration)}
    {out : List (TypeId × TypeId)} (h : collectAll known entries = .ok out) :
    ∀ e ∈ entries, ∀ r ∈ e.2.references.toList, known r = true := by
  induction entries generalizing out with
  | nil => exact fun e he => absurd he (by simp)
  | cons e rest ih =>
    rw [collectAll] at h
    split at h
    · exact absurd h (by simp)
    · next own hown =>
      split at h
      · exact absurd h (by simp)
      · next more hmore => exact List.forall_mem_cons.2 ⟨known_of_collect hown, ih hmore⟩

/-! ### The graph of an API -/

/-- The graph that is built from an API without dangling references. -/
def ofApi (api : Api) (importPath : String) : ReferenceGraph where
  importPath
  packages := api.types.mapEntries fun _ t => packageIdentity importPath t.path
  references := api.types.entries.flatMap fun e => ownReferences e.1 e.2

theorem build_of_known {api : Api} (h : api.ReferencesKnown) (importPath : String) :
    build api importPath = .ok (ofApi api importPath) := by
  have hknown : ∀ e ∈ api.types.entries, ∀ r ∈ e.2.references.toList,
      api.types.contains r = true := fun e he r hr => (Table.contains_iff ..).2 (h e he r hr)
  rw [build, collectAll_of_known hknown]
  rfl

/-- Dangling references are all that can go wrong. -/
theorem build_eq_ok_iff {api : Api} {importPath : String} {g : ReferenceGraph} :
    build api importPath = .ok g ↔ api.ReferencesKnown ∧ g = ofApi api importPath := by
  constructor
  · intro h
    have known : api.ReferencesKnown := by
      rw [build] at h
      split at h
      · exact absurd h (by simp)
      · next references hall =>
        exact fun e he r hr => (Table.contains_iff ..).1 (known_of_collectAll hall e he r hr)
    rw [build_of_known known] at h
    exact ⟨known, (Except.ok.inj h).symm⟩
  · rintro ⟨known, rfl⟩
    exact build_of_known known importPath

variable (api : Api) (importPath : String)

theorem packageOf_ofApi (id : TypeId) :
    (ofApi api importPath).packageOf id =
      (api.types.get? id).map fun t => packageIdentity importPath t.path :=
  Table.get?_mapEntries ..

theorem mem_references_ofApi {a b : TypeId} :
    (a, b) ∈ (ofApi api importPath).references ↔ api.Refers a b ∧ a ≠ b := by
  rw [ofApi, List.mem_flatMap]
  constructor
  · rintro ⟨e, he, hab⟩
    obtain ⟨rfl, hb, hne⟩ := mem_ownReferences.1 hab
    exact ⟨⟨e.2, Table.get?_eq_some_iff.2 he, hb⟩, hne.symm⟩
  · rintro ⟨⟨t, ht, hb⟩, hne⟩
    exact ⟨(a, t), Table.get?_eq_some_iff.1 ht, mem_ownReferences.2 ⟨rfl, hb, hne.symm⟩⟩

/-! ### Imports -/

theorem checkImportPath_eq_ok_iff {g : ReferenceGraph} :
    g.checkImportPath = .ok () ↔ g.importPath.isEmpty = true → g.crossReferences = [] := by
  unfold checkImportPath
  split
  · next none =>
    split
    · next inside => exact ⟨fun _ _ => inside, fun _ => rfl⟩
    · next cross => exact ⟨fun h => absurd h (by simp), fun h => absurd (h none) (by simp [cross])⟩
  · next there => exact ⟨fun _ h => absurd h there, fun _ => rfl⟩

section ImportGraph

variable {g : ReferenceGraph} {p q : String}

theorem mem_nodes_importGraph : p ∈ g.importGraph.nodes ↔ ∃ id, g.packageOf id = some p := by
  rw [importGraph, mem_sortedStrings, Table.values, List.mem_map]
  constructor
  · rintro ⟨e, he, rfl⟩
    exact ⟨e.1, Table.get?_eq_some_iff.2 he⟩
  · rintro ⟨id, h⟩
    exact ⟨(id, p), Table.get?_eq_some_iff.1 h, rfl⟩

theorem importOf?_eq_some {r : TypeId × TypeId} :
    g.importOf? r = some (p, q) ↔ g.packageOf r.1 = some p ∧ g.packageOf r.2 = some q := by
  unfold importOf?
  split
  · next source target hs ht => rw [hs, ht, Option.some.injEq, Prod.mk.injEq, Option.some.injEq,
      Option.some.injEq]
  -- If one of the packages is missing, neither side holds.
  · next none =>
    refine ⟨fun h => absurd h (by simp), fun h => ?_⟩
    exact absurd h.2 (none p q h.1)

/-- A package imports another one if a type of it refers to a type of the other. -/
theorem edge_importGraph :
    g.importGraph.Edge p q ↔
      p ≠ q ∧ ∃ r ∈ g.references, g.packageOf r.1 = some p ∧ g.packageOf r.2 = some q := by
  rw [Digraph.Edge, importGraph, mem_distinct, List.mem_filterMap]
  constructor
  · rintro ⟨r, hr, h⟩
    obtain ⟨hmem, cross⟩ := List.mem_filter.1 hr
    obtain ⟨hp, hq⟩ := importOf?_eq_some.1 h
    refine ⟨?_, r, hmem, hp, hq⟩
    -- The reference has been kept because it leaves its package.
    rintro rfl
    exact absurd (hp.trans hq.symm) (bne_iff_ne.1 cross)
  · rintro ⟨hne, r, hr, hp, hq⟩
    refine ⟨r, List.mem_filter.2 ⟨hr, bne_iff_ne.2 ?_⟩, importOf?_eq_some.2 ⟨hp, hq⟩⟩
    rw [hp, hq]
    exact fun h => hne (Option.some.inj h)

theorem edgesInside_importGraph (g : ReferenceGraph) : g.importGraph.EdgesInside := by
  intro p q h
  obtain ⟨-, r, -, -, hq⟩ := edge_importGraph.1 h
  exact mem_nodes_importGraph.2 ⟨r.2, hq⟩

theorem not_edge_importGraph_self (g : ReferenceGraph) (p : String) : ¬ g.importGraph.Edge p p :=
  fun h => (edge_importGraph.1 h).1 rfl

end ImportGraph

/-- Along a chain of references, packages import each other or stay the same. -/
theorem reaches_of_refers {api : Api} {importPath : String} {a b : TypeId}
    (chain : Relation.ReflTransGen api.Refers a b) {p q : String}
    (ha : (ofApi api importPath).packageOf a = some p)
    (hb : (ofApi api importPath).packageOf b = some q) :
    (ofApi api importPath).importGraph.Reaches p q := by
  induction chain generalizing q with
  | refl =>
    obtain rfl : p = q := Option.some.inj (ha.symm.trans hb)
    exact .refl
  | @tail c d _ refers ih =>
    obtain ⟨r, hc⟩ : ∃ r, (ofApi api importPath).packageOf c = some r := by
      obtain ⟨t, ht, -⟩ := refers
      exact ⟨_, by rw [packageOf_ofApi, ht, Option.map_some]⟩
    have path := ih hc
    -- Inside a package a reference adds nothing to the path, across packages an edge.
    by_cases same : r = q
    · rwa [← same]
    · refine path.tail (edge_importGraph.2 ⟨same, (c, d), ?_, hc, hb⟩)
      refine (mem_references_ofApi api importPath).2 ⟨refers, ?_⟩
      rintro rfl
      exact same (Option.some.inj (hc.symm.trans hb))

/-- Where packages do not import each other in a circle, no chain of references leaves a package and
comes back to it. -/
theorem packageOf_eq_of_between {api : Api} {importPath : String}
    (none : (ofApi api importPath).importGraph.cycles = []) {a b c : TypeId}
    (there : Relation.ReflTransGen api.Refers a b) (back : Relation.ReflTransGen api.Refers b c)
    {p q : String} (ha : (ofApi api importPath).packageOf a = some p)
    (hb : (ofApi api importPath).packageOf b = some q)
    (hc : (ofApi api importPath).packageOf c = some p) : p = q :=
  Digraph.eq_of_cycles_eq_nil (edgesInside_importGraph _) none (mem_nodes_importGraph.2 ⟨a, ha⟩)
    (reaches_of_refers there ha hb) (reaches_of_refers back hb hc)

end ReferenceGraph

end SdkLayout
