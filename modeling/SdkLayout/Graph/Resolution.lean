import SdkLayout.Graph.Relocation

/-!
# Resolving import cycles

Rounds of moves repeat until there is no import cycle left. A round that moves nothing shows that
the cycle cannot be broken.

**When it ends.** No bound on the rounds is part of the program. It ends because no type moves
twice: the moves made so far are moves of different types of the API (`Relocating.Sound`), so there
are never more moves than types, and every round but the last makes one.
-/

namespace SdkLayout

namespace Relocating

/-! ### Every type moves at most once -/

/-- The invariant of resolution: the moves made so far are moves of different types of the API. -/
structure Sound (s : Relocating) : Prop where
  /-- No type moved twice. -/
  once : (s.relocations.map Relocation.type).Nodup
  /-- Only types of the API moved. -/
  known : ∀ id ∈ s.relocations.map Relocation.type, id ∈ s.api.types.keys

theorem Sound.initial (api : Api) : Sound ⟨api, []⟩ where
  once := List.nodup_nil
  known := by simp

/-- There are never more moves than types. -/
theorem Sound.length_le {s : Relocating} (hs : s.Sound) :
    s.relocations.length ≤ s.api.types.size := by
  have h := hs.once.length_le_of_subset hs.known
  rwa [List.length_map, Table.length_keys] at h

/-- A move of a type that has not moved yet keeps the invariant. -/
theorem Sound.relocate {s : Relocating} (hs : s.Sound) {id : TypeId} {origin : DeclarationPath}
    (found : s.pathOf? id = some origin) (fresh : s.hasMoved id = false) (cycle : List String)
    (destination : DeclarationPath) : (s.relocate cycle origin destination id).Sound where
  once := by
    rw [relocations_relocate, List.map_append]
    refine List.nodup_append.2 ⟨hs.once, by simp, ?_⟩
    -- The type that moves now is not among those that moved before.
    rintro a ha b hb rfl
    obtain rfl : a = id := List.mem_singleton.1 hb
    exact absurd ((hasMoved_iff s a).2 ha) (by simp [fresh])
  known := by
    rw [relocations_relocate, List.map_append, keys_relocate]
    intro a ha
    rcases List.mem_append.1 ha with before | new
    · exact hs.known a before
    · obtain rfl : a = id := List.mem_singleton.1 new
      obtain ⟨t, ht, -⟩ := Option.map_eq_some_iff.1 found
      exact Table.mem_keys_of_get? ht

theorem Sound.moveAll {s : Relocating} (hs : s.Sound) (g : ReferenceGraph)
    (cycles : List (List String)) : (s.moveAll g cycles).Sound :=
  moveAll_induction (fun _ cycle _ destination _ ht ha =>
    ht.relocate ha.found ha.fresh cycle destination) hs

theorem keys_moveAll (s : Relocating) (g : ReferenceGraph) (cycles : List (List String)) :
    (s.moveAll g cycles).api.types.keys = s.api.types.keys := by
  refine moveAll_induction (P := fun t => t.api.types.keys = s.api.types.keys) ?_ rfl
  intro t cycle origin destination id ht _
  rw [keys_relocate, ht]

/-- A round keeps the moves made before. -/
theorem relocations_prefix_moveAll (s : Relocating) (g : ReferenceGraph)
    (cycles : List (List String)) : s.relocations <+: (s.moveAll g cycles).relocations := by
  refine moveAll_induction (P := fun t => s.relocations <+: t.relocations) ?_
    (List.prefix_refl _)
  intro t cycle origin destination id ht _
  exact ht.trans (List.prefix_append ..)

/-- A round that moves something leaves fewer types that have not moved. -/
theorem Sound.unmoved_lt {s : Relocating} (hs : s.Sound) {g : ReferenceGraph}
    {cycles : List (List String)}
    (moved : (s.moveAll g cycles).relocations.length ≠ s.relocations.length) :
    (s.moveAll g cycles).api.types.size - (s.moveAll g cycles).relocations.length <
      s.api.types.size - s.relocations.length := by
  have hsize : (s.moveAll g cycles).api.types.size = s.api.types.size := by
    rw [← Table.length_keys, keys_moveAll, Table.length_keys]
  -- The list of moves only grows, and stays within the number of types.
  have hgrow := (relocations_prefix_moveAll s g cycles).length_le
  have hbound := (hs.moveAll g cycles).length_le
  omega

/-! ### Rounds -/

/-- Looks for cycles and breaks them until there are none or a round moves nothing. `rounds` counts
the rounds before. -/
def resolve (importPath : String) (rounds : Nat) (s : Relocating) (sound : s.Sound) :
    Except LayoutError (Api × CycleReport) :=
  match ReferenceGraph.build s.api importPath with
  | .error e => .error e
  | .ok g =>
    match g.importGraph.cycles with
    | [] => .ok (s.api, ⟨s.relocations, rounds + 1⟩)
    | first :: others =>
      let next := s.moveAll g (first :: others)
      if _still : next.relocations.length = s.relocations.length then
        .error (.unresolvedCycle first)
      else resolve importPath (rounds + 1) next (sound.moveAll g _)
termination_by s.api.types.size - s.relocations.length
decreasing_by exact sound.unmoved_lt _still

end Relocating

/-- Moves types until no packages import each other in a circle. -/
def Api.resolveCycles (api : Api) (importPath : String) :
    Except LayoutError (Api × CycleReport) :=
  Relocating.resolve importPath 0 ⟨api, []⟩ (.initial api)

end SdkLayout
