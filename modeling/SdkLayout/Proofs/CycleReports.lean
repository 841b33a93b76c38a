import Mathlib
import SdkLayout.Proofs.SortedLists
import SdkLayout.Proofs.Termination

/-!
# The cycle report is an account of the moves

Resolution changes an API and writes down what it changes, and it reads its own record to decide
what moves next. The record stays exact. An API is corrected by nothing but the moves that are
reported (`pathAfter`), and each of them is justified by the API as it was read
(`Relocation.Justified`): the type moved away from where it was declared, to a place that types stay
in, and out of a cycle of packages of which its own was one.

Both are an invariant of the states of resolution (`Relocating.Accounted`), kept by every move of a
round (`Accounted.relocate`). The cycles are those of the graph that was built when the round began,
when a type that has not moved yet was where it is now.
-/

namespace SdkLayout

/-! ### What a report says -/

/-- Where a type is after some moves: at the destination of its own, if it is among those that
moved. -/
def pathAfter (moves : List Relocation) (id : TypeId) (declared : DeclarationPath) :
    DeclarationPath :=
  ((moves.find? fun r => decide (r.type = id)).map Relocation.destination).getD declared

/-- A move that makes sense for an API as it was read. -/
structure Relocation.Justified (importPath : String) (api : Api) (r : Relocation) : Prop where
  /-- The type is declared where the move starts. -/
  declared : (api.types.get? r.type).map TypeDeclaration.path = some r.origin
  leaves : r.origin ≠ r.destination
  /-- Where types move to, they stay. -/
  settled : r.destination.shared = r.destination
  /-- The package that the type leaves is one of the cycle. -/
  concerned : packageIdentity importPath r.origin ∈ r.cycle
  /-- A package alone is no cycle. -/
  several : 2 ≤ r.cycle.length
  /-- The packages of the cycle are listed once each, in ascending order. -/
  ascending : r.cycle.Pairwise (· < ·)

theorem DeclarationPath.shared_shared (path : DeclarationPath) :
    path.shared.shared = path.shared := by
  by_cases h : path.isShared = true
  · have stays : path.shared = path := by rw [shared, if_pos h]
    rw [stays, stays]
  · have there : path.shared.isShared = true := by
      rw [shared, if_neg h]
      -- The path has the shared package first and at most one more behind it.
      cases hl : path.lastPackage? <;> simp [isShared, Name.isShared]
    rw [DeclarationPath.shared, if_pos there]

/-! ### Moves one after the other -/

section PathAfter

variable {moves : List Relocation} {id : TypeId} {declared : DeclarationPath}

theorem find?_type_eq_none (h : id ∉ moves.map Relocation.type) :
    (moves.find? fun r => decide (r.type = id)) = none := by
  refine List.find?_eq_none.2 fun r hr same => h ?_
  exact List.mem_map.2 ⟨r, hr, of_decide_eq_true same⟩

theorem pathAfter_of_not_mem (h : id ∉ moves.map Relocation.type) :
    pathAfter moves id declared = declared := by
  rw [pathAfter, find?_type_eq_none h]
  rfl

/-- A type that moved is at the destination of a move. -/
theorem exists_destination_of_mem (h : id ∈ moves.map Relocation.type)
    (declared : DeclarationPath) :
    ∃ r ∈ moves, r.type = id ∧ pathAfter moves id declared = r.destination := by
  obtain ⟨r, hr, hid⟩ := List.mem_map.1 h
  obtain ⟨first, hfirst⟩ :
      ∃ first, (moves.find? fun r => decide (r.type = id)) = some first := by
    refine Option.isSome_iff_exists.1 (List.find?_isSome.2 ⟨r, hr, decide_eq_true hid⟩)
  refine ⟨first, List.mem_of_find?_eq_some hfirst, ?_, by rw [pathAfter, hfirst]; rfl⟩
  simpa only [decide_eq_true_eq] using List.find?_some hfirst

/-- A type that moves for the first time goes to its destination, all others are where they were. -/
theorem pathAfter_append {origin destination : DeclarationPath} {cycle : List String}
    {other : TypeId} (fresh : id ∉ moves.map Relocation.type) :
    pathAfter (moves ++ [⟨id, origin, destination, cycle⟩]) other declared =
      if other = id then destination else pathAfter moves other declared := by
  rw [pathAfter, List.find?_append]
  -- The new move is the last one, and an earlier move of the same type would hide it.
  by_cases same : other = id
  · subst same
    rw [find?_type_eq_none fresh, Option.none_or, if_pos rfl, List.find?_cons_of_pos (by simp)]
    rfl
  · rw [if_neg same, List.find?_cons_of_neg (by simpa using Ne.symm same), List.find?_nil,
      Option.or_none]
    rfl

end PathAfter

/-! ### Cycles and the types in them -/

namespace ReferenceGraph

variable {g : ReferenceGraph} {cycle : List String}

theorem cycle_ascending (h : cycle ∈ g.importGraph.cycles) :
    2 ≤ cycle.length ∧ cycle.Pairwise (· < ·) := by
  obtain ⟨component, several⟩ := List.mem_filter.1 h
  refine ⟨of_decide_eq_true several, ?_⟩
  exact (sortedStrings_ascending _).sublist (Digraph.sublist_nodes_of_mem_components component)

theorem mem_implicated {id : TypeId} :
    id ∈ g.implicated cycle ↔
      ∃ r ∈ g.crossReferences, (g.inCycle cycle r.1 = true ∧ g.inCycle cycle r.2 = true) ∧
        (id = r.1 ∨ id = r.2) := by
  simp only [implicated, List.mem_mergeSort, mem_distinct, List.mem_flatMap, List.mem_filter,
    Bool.and_eq_true, List.mem_cons, List.not_mem_nil, or_false, and_assoc]

/-- The types of a leaf group lie in packages of the cycle. -/
theorem packageOf_of_mem_leafGroups {group : List TypeId} (hg : group ∈ g.leafGroups cycle)
    {id : TypeId} (hid : id ∈ group) : ∃ p ∈ cycle, g.packageOf id = some p := by
  obtain ⟨component, -⟩ := List.mem_filter.1 hg
  -- Types are implicated in a cycle by a reference of which they are one end.
  have implicated : id ∈ g.implicated cycle :=
    (Digraph.sublist_nodes_of_mem_components component).subset hid
  obtain ⟨r, -, ⟨hsource, htarget⟩, hr⟩ := mem_implicated.1 implicated
  have inside : g.inCycle cycle id = true := by
    rcases hr with rfl | rfl
    · exact hsource
    · exact htarget
  obtain ⟨p, hp, hmem⟩ := (Option.any_eq_true _ _).1 inside
  exact ⟨p, List.contains_iff_mem.1 hmem, hp⟩

end ReferenceGraph

/-! ### The invariant -/

namespace Relocating

/-- A state of resolution owes everything to the moves made so far, and these are justified. -/
structure Accounted (importPath : String) (api : Api) (s : Relocating) : Prop where
  applied : s.api = api.mapPaths (pathAfter s.relocations)
  justified : ∀ r ∈ s.relocations, r.Justified importPath api

variable {importPath : String} {api : Api} {s : Relocating}

theorem Accounted.initial (importPath : String) (api : Api) :
    Accounted importPath api ⟨api, []⟩ where
  applied := (Api.mapPaths_id api).symm
  justified := by simp

theorem Accounted.pathOf? (h : s.Accounted importPath api) (id : TypeId) :
    s.pathOf? id =
      (api.types.get? id).map fun t => pathAfter s.relocations id t.path := by
  rw [Relocating.pathOf?, h.applied, Api.get?_mapPaths, Option.map_map]
  rfl

/-- A type that has not moved is where it was declared. -/
theorem Accounted.pathOf?_of_fresh (h : s.Accounted importPath api) {id : TypeId}
    (fresh : id ∉ s.relocations.map Relocation.type) :
    s.pathOf? id = (api.types.get? id).map TypeDeclaration.path := by
  rw [h.pathOf?]
  exact Option.map_congr fun t _ => pathAfter_of_not_mem fresh

/-- Where types may move to, they stay. -/
theorem Accounted.settled (h : s.Accounted importPath api) {path : DeclarationPath}
    (hd : s.IsDestination path) : path.shared = path := by
  obtain ⟨id, p, hp, ⟨moved, rfl⟩ | rfl⟩ := hd
  · rw [h.pathOf?] at hp
    obtain ⟨t, -, rfl⟩ := Option.map_eq_some_iff.1 hp
    obtain ⟨r, hr, -, hdest⟩ :=
      exists_destination_of_mem ((hasMoved_iff s id).1 moved) t.path
    rw [hdest]
    exact (h.justified r hr).settled
  · exact p.shared_shared

/-- **A move of a round is accounted for.** `start` is the state in which the round began. -/
theorem Accounted.relocate {start : Relocating} (hstart : start.Accounted importPath api)
    (h : s.Accounted importPath api) (later : start.relocations <+: s.relocations)
    {cycle : List String} {origin destination : DeclarationPath} {id : TypeId}
    (move : Admissible (ReferenceGraph.ofApi start.api importPath)
      (ReferenceGraph.ofApi start.api importPath).importGraph.cycles s cycle origin destination
      id) :
    (s.relocate cycle origin destination id).Accounted importPath api := by
  have fresh : id ∉ s.relocations.map Relocation.type := fun hmem => by
    have moved := (hasMoved_iff s id).2 hmem
    rw [move.fresh] at moved
    exact absurd moved Bool.false_ne_true
  -- A type that moves for the first time leaves the place where it was declared.
  have declared := (h.pathOf?_of_fresh fresh).symm.trans move.found
  refine ⟨?_, ?_⟩
  · rw [api_relocate, h.applied, Api.mapPaths_mapPaths, relocations_relocate]
    congr 1
    funext other p
    exact (pathAfter_append fresh).symm
  · rw [relocations_relocate]
    intro r hr
    rcases List.mem_append.1 hr with before | new
    · exact h.justified r before
    obtain rfl := List.mem_singleton.1 new
    obtain ⟨several, ascending⟩ := ReferenceGraph.cycle_ascending move.listed
    obtain ⟨group, hgroup, hid⟩ := move.leaf
    obtain ⟨p, hp, package⟩ := ReferenceGraph.packageOf_of_mem_leafGroups hgroup hid
    refine ⟨declared, move.leaves, h.settled move.allowed, ?_, several, ascending⟩
    -- When the round began, the type was at its origin, so that is the package of the graph.
    have then' : start.pathOf? id = some origin := by
      rw [hstart.pathOf?_of_fresh fun hmem => fresh ((later.map _).subset hmem), declared]
    obtain ⟨t, ht, rfl⟩ := Option.map_eq_some_iff.1 then'
    rw [ReferenceGraph.packageOf_ofApi, ht, Option.map_some, Option.some.injEq] at package
    rwa [package]

theorem Accounted.round {t : Relocating} (h : s.Accounted importPath api)
    (round : Round importPath s t) : t.Accounted importPath api := by
  obtain ⟨g, built, -, rfl, -⟩ := round
  obtain ⟨-, rfl⟩ := ReferenceGraph.build_eq_ok_iff.1 built
  -- What the round began with stays the beginning of the record.
  refine (moveAll_induction
    (P := fun u => u.Accounted importPath api ∧ s.relocations <+: u.relocations) ?_
    ⟨h, List.prefix_refl _⟩).1
  rintro u cycle origin destination id ⟨hu, later⟩ move
  exact ⟨h.relocate hu later move, later.trans (List.prefix_append ..)⟩

theorem Rounds.accounted {n : Nat} {t : Relocating} (run : Rounds importPath n s t)
    (h : s.Accounted importPath api) : t.Accounted importPath api := by
  induction run with
  | none => exact h
  | more round _ ih => exact ih (h.round round)

end Relocating

/-! ### The account -/

/-- An API without import cycles is left as it is. -/
theorem Api.resolveCycles_of_acyclic {api : Api} (known : api.ReferencesKnown) {importPath : String}
    (none : (ReferenceGraph.ofApi api importPath).importGraph.cycles = []) :
    api.resolveCycles importPath = .ok (api, ⟨[], 1⟩) :=
  Relocating.resolve_of_acyclic (.initial api) (ReferenceGraph.build_of_known known _) none

/-- **The report is an exact account.** The corrected API is the one that was read, with each type
that is reported to have moved at the destination of its move, and otherwise the same. No type is
reported twice, every reported move is justified by the API that was read, and there is nothing left
to move. -/
theorem Api.resolveCycles_accounted {api corrected : Api} {importPath : String}
    {report : CycleReport} (h : api.resolveCycles importPath = .ok (corrected, report)) :
    corrected = api.mapPaths (pathAfter report.relocations) ∧
      (report.relocations.map Relocation.type).Nodup ∧
      (∀ r ∈ report.relocations, r.Justified importPath api) ∧
      corrected.resolveCycles importPath = .ok (corrected, ⟨[], 1⟩) := by
  obtain ⟨n, t, run, rfl, rfl, known, none⟩ := resolveCycles_eq_ok h
  have account := run.accounted (.initial importPath api)
  exact ⟨account.applied, (run.sound (.initial api)).once, account.justified,
    resolveCycles_of_acyclic known none⟩

/-- An API of two packages that import each other. -/
def pairApi : Api :=
  Api.empty (.ofIdentifier "acme")
    |>.addObject "A" (.ofIdentifiers ["x"] none) ["B"]
    |>.addObject "B" (.ofIdentifiers ["y"] none) ["A"]

theorem resolveCycles_accounted_pairApi :
    ∃ corrected report, pairApi.resolveCycles "m" = .ok (corrected, report) ∧
      corrected = pairApi.mapPaths (pathAfter report.relocations) ∧
      (report.relocations.map Relocation.type).Nodup ∧
      (∀ r ∈ report.relocations, r.Justified "m" pairApi) ∧
      corrected.resolveCycles "m" = .ok (corrected, ⟨[], 1⟩) := by
  have resolved : (pairApi.resolveCycles "m").isOk = true := by cbv
  cases h : pairApi.resolveCycles "m" with
  | ok answer => exact ⟨answer.1, answer.2, rfl, Api.resolveCycles_accounted h⟩
  | error e =>
    rw [h] at resolved
    exact absurd resolved Bool.false_ne_true

end SdkLayout
