import Mathlib
import SdkLayout.Proofs.LeafGroups

/-!
# What moves out of a cycle moves together

The leaf groups of a cycle are read off the graph with which a round begins, but they move one after
the other, and where a group moves depends on the moves made before. It joins members that are in a
shared package already, and stays if they are in different ones. Still, no two types that move on
account of one cycle are apart afterwards if one of them refers to the other
(`Relocating.moveLeaves_together`).

Steps compose: what concerns some types and then what concerns others concerns all of them
(`Relocating.Moves`). If the groups have no member in common, then what moved together at one step
stays together at the others (`Relocating.MovedTogether.append`). And a type of a leaf group refers
to no type of another one.
-/

namespace SdkLayout

namespace Relocating

variable {s t u : Relocating} {moves moves' : List Relocation}

/-! ### Steps that concern some types -/

/-- **A step that concerns some types.** It makes these moves, and changes nothing but paths. -/
structure Moves (types : List TypeId) (s t : Relocating) (moves : List Relocation) : Prop where
  /-- The moves are written down after the ones made before. -/
  recorded : t.relocations = s.relocations ++ moves
  inside : ∀ r ∈ moves, r.type ∈ types
  /-- Other types are where they were. -/
  others : ∀ id ∉ types, t.pathOf? id = s.pathOf? id
  paths : ∃ f, t.api = s.api.mapPaths f

namespace Moves

variable {types types' : List TypeId}

theorem none (types : List TypeId) (s : Relocating) : Moves types s s [] where
  recorded := (List.append_nil _).symm
  inside := by simp
  others := fun _ _ => rfl
  paths := ⟨fun _ p => p, (Api.mapPaths_id s.api).symm⟩

theorem append (h : Moves types s t moves) (h' : Moves types' t u moves') :
    Moves (types ++ types') s u (moves ++ moves') where
  recorded := by rw [h'.recorded, h.recorded, List.append_assoc]
  inside := by
    intro r hr
    rcases List.mem_append.1 hr with first | second
    · exact List.mem_append_left _ (h.inside r first)
    · exact List.mem_append_right _ (h'.inside r second)
  others := by
    intro id outside
    rw [List.mem_append, not_or] at outside
    rw [h'.others id outside.2, h.others id outside.1]
  paths := by
    obtain ⟨f, hf⟩ := h.paths
    obtain ⟨f', hf'⟩ := h'.paths
    exact ⟨_, by rw [hf', hf, Api.mapPaths_mapPaths]⟩

theorem refers_eq (h : Moves types s t moves) : t.api.Refers = s.api.Refers := by
  obtain ⟨f, hf⟩ := h.paths
  funext a b
  rw [hf, Api.refers_mapPaths]

theorem keys_eq (h : Moves types s t moves) : t.api.types.keys = s.api.types.keys := by
  obtain ⟨f, hf⟩ := h.paths
  rw [hf, Api.keys_mapPaths]

end Moves

/-! ### The steps of a group -/

section Group

variable (cycle : List String) (destination : DeclarationPath)

theorem exists_moves_move (s : Relocating) (id : TypeId) :
    ∃ moves, Moves [id] s (s.move cycle destination id) moves := by
  rcases move_cases cycle destination s id with same | ⟨origin, -, -, moved⟩
  · rw [same]
    exact ⟨[], .none [id] s⟩
  · rw [moved]
    refine ⟨[⟨id, origin, destination, cycle⟩], relocations_relocate .., ?_, ?_, ?_⟩
    · simp
    · intro other outside
      rw [pathOf?_relocate, if_neg fun same => outside (List.mem_singleton.2 same)]
    · exact ⟨_, api_relocate ..⟩

theorem exists_moves_foldl_move (group : List TypeId) (s : Relocating) :
    ∃ moves, Moves group s (group.foldl (move cycle destination) s) moves := by
  induction group generalizing s with
  | nil => exact ⟨[], .none [] s⟩
  | cons id rest ih =>
    obtain ⟨first, hfirst⟩ := exists_moves_move cycle destination s id
    obtain ⟨others, hothers⟩ := ih (s.move cycle destination id)
    exact ⟨first ++ others, hfirst.append hothers⟩

/-- A type moves to the destination, or is there already. -/
theorem pathOf?_move (s : Relocating) (id other : TypeId) :
    (s.move cycle destination id).pathOf? other =
      if other = id then (s.pathOf? other).map fun _ => destination else s.pathOf? other := by
  unfold move
  split
  -- A type without a path stays without one.
  · next missing =>
    split
    · next same => rw [same, missing, Option.map_none]
    · rfl
  · next origin found =>
    split
    · next there =>
      split
      · next same => rw [same, found, Option.map_some, there]
      · rfl
    · exact pathOf?_relocate ..

theorem pathOf?_foldl_move (group : List TypeId) (s : Relocating) (other : TypeId) :
    (group.foldl (move cycle destination) s).pathOf? other =
      if other ∈ group then (s.pathOf? other).map fun _ => destination else s.pathOf? other := by
  induction group generalizing s with
  | nil => simp
  | cons id rest ih =>
    rw [List.foldl_cons, ih, pathOf?_move]
    by_cases first : other = id
    · subst first
      simp [Option.map_map, Function.comp_def]
    · simp [first]

end Group

/-! ### Groups that move together -/

/-- All types of a group are at one path. -/
def InOnePlace (s : Relocating) (group : List TypeId) : Prop :=
  ∃ path, ∀ id ∈ group, s.pathOf? id = some path

theorem InOnePlace.mono {group part : List TypeId} (h : s.InOnePlace group)
    (sub : ∀ id ∈ part, id ∈ group) : s.InOnePlace part := by
  obtain ⟨path, hpath⟩ := h
  exact ⟨path, fun id hid => hpath id (sub id hid)⟩

/-- **Groups that moved together.** A step that concerns the members of some groups, after which the
members of a group are at one path if any of them has moved. -/
structure MovedTogether (groups : List (List TypeId)) (s t : Relocating) (moves : List Relocation) :
    Prop extends Moves groups.flatten s t moves where
  together : ∀ group ∈ groups, (∃ r ∈ moves, r.type ∈ group) → t.InOnePlace group

/-- Where groups have no member in common, later ones do not part what moved together before. -/
theorem MovedTogether.append {groups groups' : List (List TypeId)}
    (h : MovedTogether groups s t moves) (h' : MovedTogether groups' t u moves')
    (apart : ∀ l ∈ groups, ∀ m ∈ groups', l.Disjoint m) :
    MovedTogether (groups ++ groups') s u (moves ++ moves') where
  toMoves := by
    rw [List.flatten_append]
    exact h.toMoves.append h'.toMoves
  together := by
    rintro group hgroup ⟨r, hr, member⟩
    rcases List.mem_append.1 hgroup with first | second
    -- A group of the first step: it moved then, and the second step does not concern it.
    · have notLater : ∀ id ∈ group, id ∉ groups'.flatten := by
        intro id hid later
        obtain ⟨m, hm, hidm⟩ := List.mem_flatten.1 later
        exact apart group first m hm hid hidm
      rcases List.mem_append.1 hr with before | after
      · obtain ⟨path, hpath⟩ := h.together group first ⟨r, before, member⟩
        refine ⟨path, fun id hid => ?_⟩
        rw [h'.others id (notLater id hid), hpath id hid]
      · exact absurd (h'.inside r after) (notLater r.type member)
    -- A group of the second step: the first one cannot have moved a member.
    · rcases List.mem_append.1 hr with before | after
      · obtain ⟨l, hl, hrl⟩ := List.mem_flatten.1 (h.inside r before)
        exact absurd member (apart l hl group second hrl)
      · exact h'.together group second ⟨r, after, member⟩

/-- A group that moves is at one path then, with the members that moved before. -/
theorem exists_movedTogether_moveGroup (cycle : List String) {group : List TypeId}
    (declared : ∀ id ∈ group, id ∈ s.api.types.keys) :
    ∃ moves, MovedTogether [group] s (s.moveGroup cycle group) moves := by
  unfold moveGroup
  split
  · exact ⟨[], .none _ s, fun _ _ moved => absurd moved (by simp)⟩
  -- Whatever its destination is, the fold takes every member there that is declared.
  · next destination _ =>
    obtain ⟨moves, h⟩ := exists_moves_foldl_move cycle destination group s
    refine ⟨moves, by simpa using h, fun other only _ => ?_⟩
    obtain rfl := List.mem_singleton.1 only
    refine ⟨destination, fun id hid => ?_⟩
    obtain ⟨d, hd⟩ := Table.mem_keys_iff.1 (declared id hid)
    rw [pathOf?_foldl_move, if_pos hid, pathOf?, hd, Option.map_some, Option.map_some]

theorem exists_movedTogether_foldl (cycle : List String) {groups : List (List TypeId)}
    (apart : groups.Pairwise List.Disjoint)
    (declared : ∀ group ∈ groups, ∀ id ∈ group, id ∈ s.api.types.keys) :
    ∃ moves, MovedTogether groups s (groups.foldl (moveGroup cycle) s) moves := by
  induction groups generalizing s with
  | nil => exact ⟨[], .none _ s, by simp⟩
  | cons group rest ih =>
    obtain ⟨others, apart⟩ := List.pairwise_cons.1 apart
    obtain ⟨own, declared⟩ := List.forall_mem_cons.1 declared
    obtain ⟨first, hfirst⟩ := exists_movedTogether_moveGroup cycle own
    -- The others find all of their members declared still, if not where the graph has them.
    obtain ⟨later, hlater⟩ := ih (s := s.moveGroup cycle group) apart (by rwa [hfirst.keys_eq])
    exact ⟨first ++ later, hfirst.append hlater (by simpa using others)⟩

/-- Types move, their references do not. -/
theorem refers_moveAll (s : Relocating) (g : ReferenceGraph) (cycles : List (List String)) :
    (s.moveAll g cycles).api.Refers = s.api.Refers := by
  refine moveAll_induction (P := fun t => t.api.Refers = s.api.Refers) ?_ rfl
  intro t cycle origin destination id ht _
  rw [← ht, api_relocate]
  funext a b
  exact propext (Api.refers_mapPaths _ _)

end Relocating

/-! ### The leaf groups of a cycle -/

namespace ReferenceGraph

variable {api : Api} {importPath : String} {cycle : List String} {group : List TypeId}

theorem leafGroups_disjoint (g : ReferenceGraph) (cycle : List String) :
    (g.leafGroups cycle).Pairwise List.Disjoint :=
  (Digraph.components_disjoint (edgesInside_among g cycle)).sublist List.filter_sublist

theorem mem_keys_of_mem_leafGroups (h : group ∈ (ofApi api importPath).leafGroups cycle)
    {id : TypeId} (hid : id ∈ group) : id ∈ api.types.keys := by
  obtain ⟨p, -, hp⟩ := packageOf_of_mem_leafGroups h hid
  rw [packageOf_ofApi] at hp
  obtain ⟨t, ht, -⟩ := Option.map_eq_some_iff.1 hp
  exact Table.mem_keys_of_get? ht

/-- No type of a leaf group refers to a type of another one. -/
theorem mem_of_refers {other : List TypeId} (h : group ∈ (ofApi api importPath).leafGroups cycle)
    (h' : other ∈ (ofApi api importPath).leafGroups cycle) {a b : TypeId} (ha : a ∈ group)
    (hb : b ∈ other) (refers : api.Refers a b) : b ∈ group := by
  have leaf := mem_leafGroups.1 h
  by_cases same : a = b
  · rwa [← same]
  · refine leaf.closed a ha b ⟨?_, leaf.implicated a ha, (mem_leafGroups.1 h').implicated b hb⟩
    exact (mem_references_ofApi api importPath).2 ⟨refers, same⟩

end ReferenceGraph

namespace Relocating

/-- The leaf groups of a cycle move together also if others moved since the graph was built. -/
theorem exists_movedTogether_moveLeaves {api : Api} {s : Relocating}
    (keys : s.api.types.keys = api.types.keys) (importPath : String) (cycle : List String) :
    ∃ moves, MovedTogether ((ReferenceGraph.ofApi api importPath).leafGroups cycle) s
      (s.moveLeaves (ReferenceGraph.ofApi api importPath) cycle) moves := by
  refine exists_movedTogether_foldl cycle (ReferenceGraph.leafGroups_disjoint _ cycle) ?_
  intro group hgroup id hid
  rw [keys]
  exact ReferenceGraph.mem_keys_of_mem_leafGroups hgroup hid

/-- **What moves out of a cycle moves together.** A round may begin with any state, other cycles may
come first in it, and this cycle may be any list of packages. The moves for its leaf groups leave no
group divided of which a type moved. Two types that moved are at one path if one of them refers to
the other, so that no import arises between them. -/
theorem moveLeaves_together {importPath : String} {s : Relocating} {g : ReferenceGraph}
    (built : ReferenceGraph.build s.api importPath = .ok g) (earlier : List (List String))
    (cycle : List String) :
    ∃ moves,
      MovedTogether (g.leafGroups cycle) (s.moveAll g earlier)
        ((s.moveAll g earlier).moveLeaves g cycle) moves ∧
      ∀ a ∈ moves.map Relocation.type, ∀ b ∈ moves.map Relocation.type,
        ((s.moveAll g earlier).moveLeaves g cycle).api.Refers a b →
          ((s.moveAll g earlier).moveLeaves g cycle).InOnePlace [a, b] := by
  obtain ⟨-, rfl⟩ := ReferenceGraph.build_eq_ok_iff.1 built
  obtain ⟨moves, h⟩ :=
    exists_movedTogether_moveLeaves (keys_moveAll s _ earlier) importPath cycle
  refine ⟨moves, h, ?_⟩
  intro a ha b hb refers
  obtain ⟨r, hr, rfl⟩ := List.mem_map.1 ha
  obtain ⟨r', hr', rfl⟩ := List.mem_map.1 hb
  obtain ⟨group, hgroup, member⟩ := List.mem_flatten.1 (h.inside r hr)
  obtain ⟨other, hother, member'⟩ := List.mem_flatten.1 (h.inside r' hr')
  -- References do not move, so that the second type is of the group of the first.
  rw [h.refers_eq, refers_moveAll] at refers
  have same : r'.type ∈ group := ReferenceGraph.mem_of_refers hgroup hother member member' refers
  refine (h.together group hgroup ⟨r, hr, member⟩).mono ?_
  simp only [List.forall_mem_cons]
  exact ⟨member, same, by simp⟩

/-- What the first round makes of `tangledApi`: two types are in the shared package, and one of them
is in a circle of references with the two that are left. -/
def tangledRound : Relocating :=
  moveAll (ReferenceGraph.ofApi tangledApi "m")
    (ReferenceGraph.ofApi tangledApi "m").importGraph.cycles ⟨tangledApi, []⟩

theorem relocations_tangledRound :
    tangledRound.relocations.map Relocation.type = [⟨"T1"⟩, ⟨"T3"⟩] := by
  cbv

theorem relocations_moveLeaves_tangledRound :
    (tangledRound.moveLeaves (ReferenceGraph.ofApi tangledRound.api "m")
      ["m/shared", "m/z"]).relocations.map Relocation.type =
        [⟨"T1"⟩, ⟨"T3"⟩] ++ [⟨"T0"⟩, ⟨"T2"⟩] := by
  cbv

theorem moveLeaves_together_tangledRound :
    ∃ g moves, ReferenceGraph.build tangledRound.api "m" = .ok g ∧
      moves.map Relocation.type = [⟨"T0"⟩, ⟨"T2"⟩] ∧
      MovedTogether (g.leafGroups ["m/shared", "m/z"]) (tangledRound.moveAll g [])
        ((tangledRound.moveAll g []).moveLeaves g ["m/shared", "m/z"]) moves ∧
      ∀ a ∈ moves.map Relocation.type, ∀ b ∈ moves.map Relocation.type,
        ((tangledRound.moveAll g []).moveLeaves g ["m/shared", "m/z"]).api.Refers a b →
          ((tangledRound.moveAll g []).moveLeaves g ["m/shared", "m/z"]).InOnePlace [a, b] := by
  have known : tangledRound.api.ReferencesKnown := by
    rw [Api.referencesKnown_iff, tangledRound, refers_moveAll, keys_moveAll,
      ← Api.referencesKnown_iff]
    decide
  have built := ReferenceGraph.build_of_known known "m"
  obtain ⟨moves, h, referring⟩ :=
    moveLeaves_together (s := tangledRound) built [] ["m/shared", "m/z"]
  refine ⟨_, moves, built, ?_, h, referring⟩
  -- The moves are what the record has more after the round than before.
  have record := congrArg (List.map Relocation.type) h.recorded
  rw [List.map_append, moveAll, List.foldl_nil, relocations_moveLeaves_tangledRound,
    relocations_tangledRound] at record
  exact (List.append_cancel_left record).symm

end Relocating

end SdkLayout
