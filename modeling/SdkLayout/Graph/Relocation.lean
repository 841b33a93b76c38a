import SdkLayout.Graph.References

/-!
# Breaking import cycles

Packages must not import each other in a circle. Where they would, types move out of the circle
into a package set aside for that, `shared`.

**What moves.** A type is *implicated* in a cycle if a reference between two of its packages starts
or ends there. Among the implicated types only *leaf groups* move: groups of types that refer to
each other and to no implicated type besides. They move as one, so a move never adds an import
between the types that moved.

**Where to.** A leaf group goes to the shared package beside the innermost package of its first
member. If it holds types that moved before, it joins them, because no type moves twice; and if
these are in different places the group stays.

This module is about one round: what it moves (`moveAll`), and what every move of a round has in
common (`Admissible`). Whatever single moves preserve, a round preserves (`moveAll_induction`).
-/

namespace SdkLayout

/-- The name of the package for types that had to move, and of the file they move to. -/
def sharedName : String :=
  "shared"

/-- Whether a name is that of the shared package. -/
def Name.isShared (n : Name) : Bool :=
  n.identifier == sharedName

namespace DeclarationPath

/-- Whether a path is one that types move to. -/
def isShared (path : DeclarationPath) : Bool :=
  path.packagePath.head?.any Name.isShared && decide (path.packagePath.length ≤ 2)
    && path.file.any Name.isShared

/-- The path that a type declared at `path` moves to. It lies one level below the shared package,
under the name of the innermost package of `path`; types of the root package go to the shared
package itself. A path in the shared package stays. -/
def shared (path : DeclarationPath) : DeclarationPath :=
  if path.isShared then path
  else new (.ofIdentifier sharedName :: path.lastPackage?.toList) (some (.ofIdentifier sharedName))

end DeclarationPath

/-- The move of a type. -/
structure Relocation where
  type : TypeId
  origin : DeclarationPath
  destination : DeclarationPath
  /-- The cycle of packages that the move is meant to break. -/
  cycle : List String
  deriving DecidableEq

/-- What was done about import cycles. -/
structure CycleReport where
  /-- The moves, in the order in which they were made. -/
  relocations : List Relocation
  /-- How often cycles were looked for, the last time in vain. -/
  rounds : Nat
  deriving DecidableEq

namespace ReferenceGraph

/-- Whether a type lies in one of the packages of a cycle. -/
def inCycle (g : ReferenceGraph) (cycle : List String) (id : TypeId) : Bool :=
  (g.packageOf id).any cycle.contains

/-- The types at the ends of the references between packages of a cycle, in ascending order. -/
def implicated (g : ReferenceGraph) (cycle : List String) : List TypeId :=
  let inside := g.crossReferences.filter fun r => g.inCycle cycle r.1 && g.inCycle cycle r.2
  (distinct (inside.flatMap fun r => [r.1, r.2])).mergeSort Id.le

/-- The references among some types. -/
def among (g : ReferenceGraph) (types : List TypeId) : Digraph TypeId where
  nodes := types
  edges := g.references.filter fun r => types.contains r.1 && types.contains r.2

/-- The groups of implicated types that may move, each in ascending order and ordered by the first
member. -/
def leafGroups (g : ReferenceGraph) (cycle : List String) : List (List TypeId) :=
  (g.among (g.implicated cycle)).sinks

end ReferenceGraph

/-- The state of breaking cycles: the API so far, and the moves made. -/
structure Relocating where
  api : Api
  relocations : List Relocation

namespace Relocating

/-- The path of a type. -/
def pathOf? (s : Relocating) (id : TypeId) : Option DeclarationPath :=
  (s.api.types.get? id).map TypeDeclaration.path

/-- Whether a type has moved already. -/
def hasMoved (s : Relocating) (id : TypeId) : Bool :=
  s.relocations.any fun r => decide (r.type = id)

/-- The paths of the members of a group that have moved already. -/
def movedPaths (s : Relocating) (group : List TypeId) : List DeclarationPath :=
  (group.filter s.hasMoved).filterMap s.pathOf?

/-- The path that a group moves to, none if it has to stay. -/
def destination? (s : Relocating) (group : List TypeId) : Option DeclarationPath :=
  match s.movedPaths group with
  | first :: others => if others.all fun p => decide (p = first) then some first else none
  | [] => (group.head?.bind s.pathOf?).map DeclarationPath.shared

/-- The state after a type has moved. -/
def relocate (cycle : List String) (origin destination : DeclarationPath) (s : Relocating)
    (id : TypeId) : Relocating where
  api := { s.api with types := s.api.types.modify id fun t => { t with path := destination } }
  relocations := s.relocations ++ [⟨id, origin, destination, cycle⟩]

/-- Moves a type, unless it is at its destination. -/
def move (cycle : List String) (destination : DeclarationPath) (s : Relocating) (id : TypeId) :
    Relocating :=
  match s.pathOf? id with
  | none => s
  | some origin =>
    if origin = destination then s else s.relocate cycle origin destination id

/-- Moves a group as one. -/
def moveGroup (cycle : List String) (s : Relocating) (group : List TypeId) : Relocating :=
  match s.destination? group with
  | none => s
  | some destination => group.foldl (move cycle destination) s

/-- Moves the leaf groups of a cycle. -/
def moveLeaves (g : ReferenceGraph) (s : Relocating) (cycle : List String) : Relocating :=
  (g.leafGroups cycle).foldl (moveGroup cycle) s

/-- Moves the leaf groups of several cycles of the same graph. -/
def moveAll (g : ReferenceGraph) (cycles : List (List String)) (s : Relocating) : Relocating :=
  cycles.foldl (moveLeaves g) s

/-! ### What a move changes -/

section Relocate

variable (cycle : List String) (origin destination : DeclarationPath) (s : Relocating) (id : TypeId)

@[simp] theorem relocations_relocate : (s.relocate cycle origin destination id).relocations =
    s.relocations ++ [⟨id, origin, destination, cycle⟩] := rfl

@[simp] theorem keys_relocate :
    (s.relocate cycle origin destination id).api.types.keys = s.api.types.keys :=
  Table.keys_modify ..

theorem get?_relocate (other : TypeId) :
    (s.relocate cycle origin destination id).api.types.get? other =
      if other = id then (s.api.types.get? other).map fun t => { t with path := destination }
      else s.api.types.get? other :=
  Table.get?_modify ..

/-- A move changes the path of the type that moves, and of no other. -/
theorem pathOf?_relocate (other : TypeId) :
    (s.relocate cycle origin destination id).pathOf? other =
      if other = id then (s.pathOf? other).map fun _ => destination else s.pathOf? other := by
  rw [pathOf?, pathOf?, get?_relocate]
  split
  · rw [Option.map_map, Option.map_map]
    rfl
  · rfl

theorem hasMoved_iff : s.hasMoved id = true ↔ id ∈ s.relocations.map Relocation.type := by
  simp [hasMoved]

theorem hasMoved_relocate (other : TypeId) :
    (s.relocate cycle origin destination id).hasMoved other = true ↔
      s.hasMoved other = true ∨ other = id := by
  rw [hasMoved_iff, hasMoved_iff, relocations_relocate, List.map_append, List.mem_append]
  exact or_congr_right List.mem_singleton

end Relocate

/-! ### What the moves of a round have in common -/

/-- A path that types may move to: one where types are that moved before, or the shared path of a
type. -/
def IsDestination (s : Relocating) (path : DeclarationPath) : Prop :=
  ∃ id p, s.pathOf? id = some p ∧ (s.hasMoved id = true ∧ path = p ∨ path = p.shared)

/-- **The moves of a round.** A type of a leaf group of one of the cycles, which has not moved yet,
leaves its place for one that types may move to. -/
structure Admissible (g : ReferenceGraph) (cycles : List (List String)) (s : Relocating)
    (cycle : List String) (origin destination : DeclarationPath) (id : TypeId) : Prop where
  listed : cycle ∈ cycles
  leaf : ∃ group ∈ g.leafGroups cycle, id ∈ group
  found : s.pathOf? id = some origin
  /-- No type moves twice. -/
  fresh : s.hasMoved id = false
  leaves : origin ≠ destination
  allowed : s.IsDestination destination

/-- The members of a group that moved already are all at one path. -/
def Gathered (s : Relocating) (group : List TypeId) (path : DeclarationPath) : Prop :=
  ∀ id ∈ group, s.hasMoved id = true → ∀ p, s.pathOf? id = some p → p = path

theorem mem_movedPaths {s : Relocating} {group : List TypeId} {path : DeclarationPath} :
    path ∈ s.movedPaths group ↔
      ∃ id ∈ group, s.hasMoved id = true ∧ s.pathOf? id = some path := by
  simp only [movedPaths, List.mem_filterMap, List.mem_filter, and_assoc]

/-- A group only moves to where its members are that moved already. -/
theorem gathered_of_destination? {s : Relocating} {group : List TypeId} {path : DeclarationPath}
    (h : s.destination? group = some path) : s.Gathered group path := by
  intro id hid moved p hp
  have hmem : p ∈ s.movedPaths group := mem_movedPaths.2 ⟨id, hid, moved, hp⟩
  unfold destination? at h
  split at h
  · next first others heq =>
    rw [heq] at hmem
    split at h
    · next same =>
      obtain rfl : first = path := Option.some.inj h
      rcases List.mem_cons.1 hmem with rfl | hother
      · rfl
      · exact of_decide_eq_true (List.all_eq_true.1 same p hother)
    · exact absurd h (by simp)
  -- If no member has moved, there is nothing to show.
  · next heq =>
    rw [heq] at hmem
    exact absurd hmem (by simp)

theorem isDestination_of_destination? {s : Relocating} {group : List TypeId}
    {path : DeclarationPath} (h : s.destination? group = some path) : s.IsDestination path := by
  unfold destination? at h
  split at h
  · next first others heq =>
    split at h
    · obtain rfl : first = path := Option.some.inj h
      obtain ⟨id, -, moved, hp⟩ := mem_movedPaths.1 (heq ▸ List.mem_cons_self)
      exact ⟨id, first, hp, Or.inl ⟨moved, rfl⟩⟩
    · exact absurd h (by simp)
  · obtain ⟨p, hp, rfl⟩ := Option.map_eq_some_iff.1 h
    obtain ⟨id, -, hid⟩ := Option.bind_eq_some_iff.1 hp
    exact ⟨id, p, hid, Or.inr rfl⟩

theorem move_cases (cycle : List String) (destination : DeclarationPath) (s : Relocating)
    (id : TypeId) :
    s.move cycle destination id = s ∨
      ∃ origin, s.pathOf? id = some origin ∧ origin ≠ destination ∧
        s.move cycle destination id = s.relocate cycle origin destination id := by
  unfold move
  split
  · exact Or.inl rfl
  · next origin heq =>
    split
    · exact Or.inl rfl
    · next leaves => exact Or.inr ⟨origin, heq, leaves, rfl⟩

section Induction

variable {P : Relocating → Prop} {g : ReferenceGraph} {cycles : List (List String)}

/-- Moving a group as one is a sequence of admissible moves. The invariant is that the members moved
so far are at the destination, so that a member that moved before is not touched again. -/
theorem moveGroup_induction
    (step : ∀ s cycle origin destination id, P s →
      Admissible g cycles s cycle origin destination id →
        P (s.relocate cycle origin destination id))
    {cycle : List String} (hc : cycle ∈ cycles) {group : List TypeId}
    (hg : group ∈ g.leafGroups cycle) {s : Relocating} (h : P s) : P (s.moveGroup cycle group) := by
  unfold moveGroup
  split
  · exact h
  · next destination hd =>
    refine (List.foldlRecOn group _
      (motive := fun t => P t ∧ t.Gathered group destination ∧ t.IsDestination destination)
      ⟨h, gathered_of_destination? hd, isDestination_of_destination? hd⟩ ?_).1
    rintro t ⟨ht, gathered, allowed⟩ id hid
    rcases move_cases cycle destination t id with same | ⟨origin, found, leaves, moved⟩
    · rw [same]
      exact ⟨ht, gathered, allowed⟩
    -- A member that has moved is at the destination already, and would not have left.
    · have fresh : t.hasMoved id = false := by
        by_cases hm : t.hasMoved id = true
        · exact absurd (gathered id hid hm origin found) leaves
        · exact Bool.eq_false_iff.2 hm
      have arrived : (t.relocate cycle origin destination id).pathOf? id = some destination := by
        rw [pathOf?_relocate, if_pos rfl, found, Option.map_some]
      rw [moved]
      refine ⟨step t cycle origin destination id ht
        ⟨hc, ⟨group, hg, hid⟩, found, fresh, leaves, allowed⟩, ?_, ?_⟩
      · intro other ho hm p hp
        by_cases same : other = id
        · subst same
          exact Option.some.inj (hp.symm.trans arrived)
        · rw [pathOf?_relocate, if_neg same] at hp
          exact gathered other ho (((hasMoved_relocate ..).1 hm).resolve_right same) p hp
      · exact ⟨id, destination, arrived, Or.inl ⟨(hasMoved_relocate ..).2 (Or.inr rfl), rfl⟩⟩

/-- **Induction over a round.** What every admissible move preserves, the round preserves. -/
theorem moveAll_induction
    (step : ∀ s cycle origin destination id, P s →
      Admissible g cycles s cycle origin destination id →
        P (s.relocate cycle origin destination id))
    {s : Relocating} (h : P s) : P (s.moveAll g cycles) := by
  refine List.foldlRecOn cycles _ h fun t ht cycle hc => ?_
  exact List.foldlRecOn (g.leafGroups cycle) _ ht fun u hu group hg =>
    moveGroup_induction step hc hg hu

end Induction

end Relocating

end SdkLayout
