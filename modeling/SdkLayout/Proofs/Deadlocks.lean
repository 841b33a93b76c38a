import Mathlib
import SdkLayout.Proofs.LeafTypes

/-!
# Deadlocks of resolution

A round moves leaf groups that have not moved yet. Even where no type reaches itself through other
types, resolution can come to a state in which all leaves of a cycle have moved
(`chainApi_unresolved`). A shared package can import its way back to itself just as any other
package, and what is in it stays there.

That is the only way to fail (`Api.resolveCycles_of_typesAcyclic`). As long as types do not refer to
each other in a circle, leaf groups have one member, and a leaf that has not moved is outside of the
shared packages and moves. So a round that moves nothing finds a cycle whose leaves have all moved
to the shared packages of their own packages, and each of them has a type beside it by which the
cycle goes on (`Relocating.Deadlocked`).
-/

namespace SdkLayout

open Relation

/-! ### Folds that grow or stay -/

section Folds

variable {α β : Type} {f : β → α → β} {size : β → Nat}
  (grows : ∀ b a, f b a = b ∨ size b < size (f b a))

include grows

theorem foldl_grows (l : List α) (b : β) : l.foldl f b = b ∨ size b < size (l.foldl f b) := by
  induction l generalizing b with
  | nil => exact .inl rfl
  | cons a rest ih =>
    rw [List.foldl_cons]
    rcases grows b a with same | more
    · rw [same]
      exact ih b
    · rcases ih (f b a) with same | more'
      · rw [same]
        exact .inr more
      · exact .inr (more.trans more')

/-- If a fold has not grown in the end, none of its steps changes anything. -/
theorem eq_of_size_foldl {l : List α} {b : β} (h : size (l.foldl f b) = size b) :
    ∀ a ∈ l, f b a = b := by
  induction l with
  | nil => exact fun a ha => absurd ha (by simp)
  | cons a rest ih =>
    rw [List.foldl_cons] at h
    have first : f b a = b := by
      rcases grows b a with same | more
      · exact same
      -- What has grown at the first step would have grown in the end.
      · rcases foldl_grows grows rest (f b a) with same' | more'
        · rw [same'] at h
          omega
        · omega
    rw [first] at h
    exact List.forall_mem_cons.2 ⟨first, ih h⟩

end Folds

/-! ### Rounds that move nothing -/

namespace Relocating

variable {importPath : String} {n : Nat} {s t : Relocating}

theorem move_grows (cycle : List String) (destination : DeclarationPath) (s : Relocating)
    (id : TypeId) : s.move cycle destination id = s ∨
      s.relocations.length < (s.move cycle destination id).relocations.length := by
  rcases move_cases cycle destination s id with same | ⟨origin, -, -, moved⟩
  · exact .inl same
  · refine .inr ?_
    rw [moved, relocations_relocate, List.length_append]
    exact Nat.lt_succ_self _

theorem moveGroup_grows (cycle : List String) (s : Relocating) (group : List TypeId) :
    s.moveGroup cycle group = s ∨
      s.relocations.length < (s.moveGroup cycle group).relocations.length := by
  unfold moveGroup
  split
  · exact .inl rfl
  · next destination _ => exact foldl_grows (move_grows cycle destination) group s

/-- If a round moves nothing, no leaf group of a cycle can move. -/
theorem moveGroup_eq_of_still {g : ReferenceGraph} {cycles : List (List String)}
    (still : (s.moveAll g cycles).relocations.length = s.relocations.length) :
    ∀ cycle ∈ cycles, ∀ group ∈ g.leafGroups cycle, s.moveGroup cycle group = s := by
  have leaves : ∀ (s : Relocating) (cycle : List String), s.moveLeaves g cycle = s ∨
      s.relocations.length < (s.moveLeaves g cycle).relocations.length :=
    fun s cycle => foldl_grows (moveGroup_grows cycle) (g.leafGroups cycle) s
  intro cycle hc
  have stays : s.moveLeaves g cycle = s := eq_of_size_foldl leaves still cycle hc
  refine eq_of_size_foldl (moveGroup_grows cycle) ?_
  exact congrArg (fun t => t.relocations.length) stays

/-! ### Where types move to -/

/-- A type that is a group by itself stays if it has moved or is in a shared package, and else moves
to the shared package of its own package. -/
theorem moveGroup_singleton_cases (s : Relocating) (cycle : List String) (id : TypeId) :
    (s.moveGroup cycle [id] = s ∧
      (s.hasMoved id = true ∨ ∀ p, s.pathOf? id = some p → p = p.shared)) ∨
    ∃ p, s.pathOf? id = some p ∧ s.moveGroup cycle [id] = s.relocate cycle p p.shared id := by
  cases found : s.pathOf? id with
  | none =>
    refine .inl ⟨?_, .inr fun p hp => absurd hp (by simp)⟩
    cases moved : s.hasMoved id <;> simp [moveGroup, destination?, movedPaths, moved, found]
  | some p =>
    cases moved : s.hasMoved id with
    -- The type is where it moved to.
    | true =>
      refine .inl ⟨?_, .inl rfl⟩
      simp [moveGroup, destination?, movedPaths, moved, found, move]
    | false =>
      have moves : s.moveGroup cycle [id] =
          if p = p.shared then s else s.relocate cycle p p.shared id := by
        simp [moveGroup, destination?, movedPaths, moved, found, move]
      by_cases shared : p = p.shared
      · rw [if_pos shared] at moves
        refine .inl ⟨moves, .inr fun p' hp' => ?_⟩
        rwa [← Option.some.inj hp']
      · rw [if_neg shared] at moves
        exact .inr ⟨p, rfl, moves⟩

/-- Types have moved to the shared packages of their own packages. -/
def OwnShared (s : Relocating) : Prop :=
  ∀ r ∈ s.relocations, r.destination = r.origin.shared

theorem OwnShared.moveGroup_singleton (h : s.OwnShared) (cycle : List String) (id : TypeId) :
    (s.moveGroup cycle [id]).OwnShared := by
  rcases s.moveGroup_singleton_cases cycle id with ⟨same, -⟩ | ⟨p, -, moved⟩
  · rwa [same]
  · rw [moved]
    intro r hr
    rw [relocations_relocate] at hr
    rcases List.mem_append.1 hr with before | new
    · exact h r before
    · rw [List.mem_singleton.1 new]

theorem Rounds.typesAcyclic (run : Rounds importPath n s t) (acyclic : s.api.TypesAcyclic) :
    t.api.TypesAcyclic := by
  have same : t.api.RefersToOther = s.api.RefersToOther := by
    unfold Api.RefersToOther
    rw [run.refers_eq]
  rw [Api.TypesAcyclic, same]
  exact acyclic

/-- Where types do not refer to each other in a circle, a round moves one type at a time. -/
theorem OwnShared.round (h : s.OwnShared) (acyclic : s.api.TypesAcyclic)
    (round : Round importPath s t) : t.OwnShared := by
  obtain ⟨g, built, -, rfl, -⟩ := round
  obtain ⟨-, rfl⟩ := ReferenceGraph.build_eq_ok_iff.1 built
  refine List.foldlRecOn _ _ h fun u hu cycle _ => ?_
  refine List.foldlRecOn _ _ hu fun v hv group hgroup => ?_
  obtain ⟨id, -, rfl, -⟩ := (ReferenceGraph.mem_leafGroups_of_acyclic acyclic).1 hgroup
  exact hv.moveGroup_singleton cycle id

theorem Rounds.ownShared (run : Rounds importPath n s t) (acyclic : s.api.TypesAcyclic)
    (h : s.OwnShared) : t.OwnShared := by
  induction run with
  | none => exact h
  | more round _ ih =>
    exact ih ((Rounds.more round (.none _)).typesAcyclic acyclic) (h.round acyclic round)

section Run

variable {api : Api} (run : Rounds importPath n ⟨api, []⟩ t) (acyclic : api.TypesAcyclic)

include run

/-- A type that moved is where its move took it. -/
theorem Rounds.pathOf?_of_mem {r : Relocation} (hr : r ∈ t.relocations) :
    t.pathOf? r.type = some r.destination := by
  have account := run.accounted (.initial importPath api)
  obtain ⟨d, hd, -⟩ := Option.map_eq_some_iff.1 (account.justified r hr).declared
  obtain ⟨r', hr', same, there⟩ := exists_destination_of_mem (List.mem_map_of_mem hr) d.path
  -- No type moved twice.
  have once := (run.sound (.initial api)).once
  obtain rfl := List.inj_on_of_nodup_map once hr' hr same
  rw [account.pathOf?, hd, Option.map_some, there]

include acyclic

/-- A type is where it was declared, or in the shared package of that. -/
theorem Rounds.place {id : TypeId} {d : TypeDeclaration} (declared : api.types.get? id = some d) :
    t.pathOf? id = some d.path ∨ t.pathOf? id = some d.path.shared := by
  have account := run.accounted (.initial importPath api)
  have own := run.ownShared acyclic fun r hr => absurd hr (by simp)
  by_cases moved : id ∈ t.relocations.map Relocation.type
  · obtain ⟨r, hr, rfl⟩ := List.mem_map.1 moved
    have origin := (account.justified r hr).declared
    rw [declared, Option.map_some, Option.some.injEq] at origin
    refine .inr ?_
    rw [run.pathOf?_of_mem hr, own r hr, origin]
  · refine .inl ?_
    rw [account.pathOf?_of_fresh moved, declared, Option.map_some]

end Run

/-- All leaves of the cycles have moved. -/
structure Deadlocked (importPath : String) (api : Api) (s : Relocating) (cycle : List String) :
    Prop where
  listed : cycle ∈ (ReferenceGraph.ofApi s.api importPath).importGraph.cycles
  leaves : (ReferenceGraph.ofApi s.api importPath).leafGroups cycle ≠ []
  /-- The leaf groups of this cycle, and of any other, are single types that moved before, from
  where they were declared to the shared package of that. -/
  moved : ∀ other ∈ (ReferenceGraph.ofApi s.api importPath).importGraph.cycles,
    ∀ group ∈ (ReferenceGraph.ofApi s.api importPath).leafGroups other, ∃ r ∈ s.relocations,
      group = [r.type] ∧ (api.types.get? r.type).map TypeDeclaration.path = some r.origin ∧
      r.destination = r.origin.shared ∧ s.pathOf? r.type = some r.destination
  /-- The cycle goes on by another type in the package of the leaf. -/
  beside : ∀ id, [id] ∈ (ReferenceGraph.ofApi s.api importPath).leafGroups cycle →
    ∃ p ∈ cycle, ∃ q ∈ cycle, p ≠ q ∧ s.api.packageOf importPath id = some p ∧
      ∃ a b, a ≠ id ∧ api.Refers a b ∧ s.api.packageOf importPath a = some p ∧
        s.api.packageOf importPath b = some q

end Relocating

namespace Api

variable {api : Api} {importPath : String}

/-- No type is declared in a package whose path begins with the shared package. -/
def SharedUnused (api : Api) : Prop :=
  ∀ e ∈ api.types.entries, e.2.path.packagePath.head?.any Name.isShared = false

instance : Decidable api.SharedUnused :=
  inferInstanceAs (Decidable (∀ e ∈ api.types.entries, _))

/-- A path outside of the shared package has its shared path elsewhere. -/
theorem SharedUnused.ne_shared (unused : api.SharedUnused) {id : TypeId} {t : TypeDeclaration}
    (ht : api.types.get? id = some t) : t.path ≠ t.path.shared := by
  have outside := unused (id, t) (Table.get?_eq_some_iff.1 ht)
  have notShared : ¬ t.path.isShared = true := by
    rw [DeclarationPath.isShared, outside]
    simp
  intro same
  rw [DeclarationPath.shared, if_neg notShared] at same
  rw [same] at outside
  simp [Name.isShared] at outside

end Api

namespace Relocating

section Stuck

variable {api : Api} {cycle : List String} (run : Rounds importPath n ⟨api, []⟩ s)
  (acyclic : api.TypesAcyclic)

include run acyclic

omit acyclic in
/-- In a round that moves nothing, a leaf has moved already. -/
theorem Rounds.mem_relocations_of_still (unused : api.SharedUnused) {id : TypeId}
    (there : ∃ p, s.api.packageOf importPath id = some p) (stays : s.moveGroup cycle [id] = s) :
    ∃ r ∈ s.relocations, r.type = id := by
  by_contra unmoved
  have fresh : id ∉ s.relocations.map Relocation.type := fun moved => by
    obtain ⟨r, hr, same⟩ := List.mem_map.1 moved
    exact unmoved ⟨r, hr, same⟩
  -- So it is where it was declared, and that is not in a shared package.
  have place := (run.accounted (.initial importPath api)).pathOf?_of_fresh fresh
  obtain ⟨t, ht⟩ : ∃ t, api.types.get? id = some t := by
    obtain ⟨f, hf⟩ := run.exists_mapPaths
    obtain ⟨p, hp⟩ := there
    obtain ⟨t, ht, -⟩ := Option.map_eq_some_iff.1 hp
    rw [hf, Api.get?_mapPaths] at ht
    obtain ⟨d, hd, -⟩ := Option.map_eq_some_iff.1 ht
    exact ⟨d, hd⟩
  rw [ht, Option.map_some] at place
  rcases s.moveGroup_singleton_cases cycle id with ⟨-, moved | shared⟩ | ⟨p, -, moves⟩
  · exact fresh ((hasMoved_iff s id).1 moved)
  · exact unused.ne_shared ht (shared _ place)
  · rw [stays] at moves
    have longer := congrArg (fun t => t.relocations.length) moves
    simp only [relocations_relocate, List.length_append, List.length_singleton] at longer
    omega

/-- The package of a leaf has another type that refers to a type of another package. -/
theorem Rounds.exists_beside (listed :
      cycle ∈ (ReferenceGraph.ofApi s.api importPath).importGraph.cycles) {id : TypeId}
    (hid : [id] ∈ (ReferenceGraph.ofApi s.api importPath).leafGroups cycle) :
    ∃ p ∈ cycle, ∃ q ∈ cycle, p ≠ q ∧ s.api.packageOf importPath id = some p ∧
      ∃ a b, a ≠ id ∧ api.Refers a b ∧ s.api.packageOf importPath a = some p ∧
        s.api.packageOf importPath b = some q := by
  have package := ReferenceGraph.packageOf_ofApi s.api importPath
  obtain ⟨p, hp, hidp⟩ :=
    ReferenceGraph.packageOf_of_mem_leafGroups hid (List.mem_singleton_self id)
  obtain ⟨r, hr, q, hq, hne, hrp, hrq⟩ := ReferenceGraph.exists_crossing listed hp
  obtain ⟨-, implicated⟩ := ReferenceGraph.mem_implicated_of_crossing hr hp hq hne hrp hrq
  obtain ⟨id', -, same, leaf⟩ :=
    (ReferenceGraph.mem_leafGroups_of_acyclic (run.typesAcyclic acyclic)).1 hid
  obtain rfl := List.singleton_inj.1 same
  have refers := (ReferenceGraph.mem_references_ofApi s.api importPath).1 hr
  rw [package] at hidp hrp hrq
  refine ⟨p, hp, q, hq, hne, hidp, r.1, r.2, ?_, ?_, hrp, hrq⟩
  -- The leaf refers to no implicated type.
  · intro same
    rw [same] at refers
    exact leaf r.2 implicated refers
  · rw [run.refers_eq] at refers
    exact refers.1

/-- **A round that moves nothing is a deadlock**, if no type reaches itself through others and the
shared package has not been in use. -/
theorem Rounds.deadlocked (unused : api.SharedUnused)
    (listed : cycle ∈ (ReferenceGraph.ofApi s.api importPath).importGraph.cycles)
    (still : (s.moveAll (ReferenceGraph.ofApi s.api importPath)
      (ReferenceGraph.ofApi s.api importPath).importGraph.cycles).relocations.length =
        s.relocations.length) : s.Deadlocked importPath api cycle where
  listed := listed
  leaves := ReferenceGraph.leafGroups_ne_nil listed
  moved := by
    intro other hother group hgroup
    have stays := moveGroup_eq_of_still still other hother group hgroup
    -- Where no type reaches itself, a group is a single type.
    obtain ⟨id, -, rfl, -⟩ :=
      (ReferenceGraph.mem_leafGroups_of_acyclic (run.typesAcyclic acyclic)).1 hgroup
    have there : ∃ p, s.api.packageOf importPath id = some p := by
      obtain ⟨p, -, hp⟩ :=
        ReferenceGraph.packageOf_of_mem_leafGroups hgroup (List.mem_singleton_self id)
      rw [ReferenceGraph.packageOf_ofApi] at hp
      exact ⟨p, hp⟩
    -- It stays where it is in a round only if it has moved before.
    obtain ⟨r, hr, rfl⟩ := run.mem_relocations_of_still unused there stays
    have account := run.accounted (.initial importPath api)
    have own := run.ownShared acyclic fun r hr => absurd hr (by simp)
    exact ⟨r, hr, rfl, (account.justified r hr).declared, own r hr, run.pathOf?_of_mem hr⟩
  beside := fun _ hid => run.exists_beside acyclic listed hid

end Stuck

end Relocating

/-- **Where no type reaches itself through others, resolution succeeds or ends in a deadlock** of
leaves that moved in earlier rounds. -/
theorem Api.resolveCycles_of_typesAcyclic {api : Api} (known : api.ReferencesKnown)
    (acyclic : api.TypesAcyclic) (unused : api.SharedUnused) (importPath : String) :
    (∃ corrected report, api.resolveCycles importPath = .ok (corrected, report)) ∨
      ∃ cycle n s, api.resolveCycles importPath = .error (.unresolvedCycle cycle) ∧ 1 ≤ n ∧
        Relocating.Rounds importPath n ⟨api, []⟩ s ∧ s.Deadlocked importPath api cycle := by
  cases answer : api.resolveCycles importPath with
  | ok result => exact .inl ⟨result.1, result.2, rfl⟩
  | error e =>
    obtain ⟨n, s, cycle, run, rfl, listed, still⟩ := exists_still_of_resolveCycles known answer
    have deadlock := run.deadlocked acyclic unused listed still
    refine .inr ⟨cycle, n, s, rfl, ?_, run, deadlock⟩
    -- A leaf has moved, which takes a round.
    obtain ⟨group, hgroup⟩ := List.exists_mem_of_ne_nil _ deadlock.leaves
    obtain ⟨r, hr, -⟩ := deadlock.moved cycle listed group hgroup
    cases run with
    | none => exact absurd hr (by simp)
    | more _ _ => exact Nat.le_add_left ..

/-! ### Types that cannot be resolved -/

/-- A chain of references that leaves a package and comes back to it twice cannot be resolved. Each
type has two places where it can be, so that two of the three types of the package are in one place
in the end, while the chain between them leaves it. -/
theorem Api.resolveCycles_ne_ok_of_zigzag {api : Api} (acyclic : api.TypesAcyclic)
    {importPath : String} {x y : DeclarationPath} {a b c d e : TypeId}
    (hab : ReflTransGen api.Refers a b) (hbc : ReflTransGen api.Refers b c)
    (hcd : ReflTransGen api.Refers c d) (hde : ReflTransGen api.Refers d e)
    (inside : ∀ id ∈ [a, c, e], (api.types.get? id).map TypeDeclaration.path = some x)
    (outside : ∀ id ∈ [b, d], (api.types.get? id).map TypeDeclaration.path = some y)
    (apart : ∀ p ∈ [x, x.shared], ∀ q ∈ [y, y.shared],
      packageIdentity importPath p ≠ packageIdentity importPath q)
    (corrected : Api) (report : CycleReport) :
    api.resolveCycles importPath ≠ .ok (corrected, report) := by
  intro h
  obtain ⟨n, s, run, rfl, -, -, none⟩ := resolveCycles_eq_ok h
  have refers : s.api.Refers = api.Refers := run.refers_eq
  rw [← refers] at hab hbc hcd hde
  have place : ∀ {id path}, (api.types.get? id).map TypeDeclaration.path = some path →
      ∃ p ∈ [path, path.shared], (ReferenceGraph.ofApi s.api importPath).packageOf id =
        some (packageIdentity importPath p) := by
    intro id path declared
    obtain ⟨t, ht, rfl⟩ := Option.map_eq_some_iff.1 declared
    obtain ⟨p, hp, there⟩ : ∃ p ∈ [t.path, t.path.shared], s.pathOf? id = some p := by
      rcases run.place acyclic ht with there | there
      · exact ⟨_, List.mem_cons_self, there⟩
      · exact ⟨_, List.mem_cons_of_mem _ List.mem_cons_self, there⟩
    obtain ⟨t', ht', rfl⟩ := Option.map_eq_some_iff.1 there
    exact ⟨t'.path, hp, by rw [ReferenceGraph.packageOf_ofApi, ht', Option.map_some]⟩
  -- Two types of the package are never at one place if the chain leaves it between them.
  have differ : ∀ {u v w p q}, ReflTransGen s.api.Refers u v → ReflTransGen s.api.Refers v w →
      v ∈ [b, d] → p ∈ [x, x.shared] →
      (ReferenceGraph.ofApi s.api importPath).packageOf u = some (packageIdentity importPath p) →
      (ReferenceGraph.ofApi s.api importPath).packageOf w = some (packageIdentity importPath q) →
      p ≠ q := by
    rintro u v w p _ huv hvw hv hp hu hw rfl
    obtain ⟨r, hr, hvr⟩ := place (outside v hv)
    exact apart p hp r hr (ReferenceGraph.packageOf_eq_of_between none huv hvw hu hvr hw)
  obtain ⟨p, hp, hap⟩ := place (inside a (by simp))
  obtain ⟨q, hq, hcq⟩ := place (inside c (by simp))
  obtain ⟨r, hr, her⟩ := place (inside e (by simp))
  have hpq : p ≠ q := differ hab hbc (by simp) hp hap hcq
  have hqr : q ≠ r := differ hcd hde (by simp) hq hcq her
  have hpr : p ≠ r := differ hab (hbc.trans (hcd.trans hde)) (by simp) hp hap her
  simp only [List.mem_cons, List.not_mem_nil, or_false] at hp hq hr
  rcases hp with rfl | rfl <;> rcases hq with rfl | rfl
  · exact hpq rfl
  · rcases hr with rfl | rfl
    · exact hpr rfl
    · exact hqr rfl
  · rcases hr with rfl | rfl
    · exact hqr rfl
    · exact hpr rfl
  · exact hpq rfl

/-- A chain of references that goes back and forth between two packages. -/
def chainApi : Api :=
  Api.empty (.ofIdentifier "acme")
    |>.addObject "A" (.ofIdentifiers ["x"] none) ["B"]
    |>.addObject "B" (.ofIdentifiers ["y"] none) ["C"]
    |>.addObject "C" (.ofIdentifiers ["x"] none) ["D"]
    |>.addObject "D" (.ofIdentifiers ["y"] none) ["E"]
    |>.addObject "E" (.ofIdentifiers ["x"] none) []

theorem chainApi_typesAcyclic : chainApi.TypesAcyclic :=
  Api.typesAcyclic_of_later (by decide)

/-- Resolution can fail although no type reaches itself and the shared package is not in use. -/
theorem chainApi_unresolved :
    chainApi.ReferencesKnown ∧ chainApi.TypesAcyclic ∧ chainApi.SharedUnused ∧
      ∃ cycle, chainApi.resolveCycles "m" = .error (.unresolvedCycle cycle) := by
  have known : chainApi.ReferencesKnown := by decide
  refine ⟨known, chainApi_typesAcyclic, by decide +kernel, ?_⟩
  have next : ∀ {a b}, (∃ t, chainApi.types.get? a = some t ∧ b ∈ t.references.toList) →
      ReflTransGen chainApi.Refers a b := fun h => .single h
  -- The answer is not computed. That the chain goes back and forth rules a success out.
  cases h : chainApi.resolveCycles "m" with
  | error e =>
    obtain ⟨cycle, rfl⟩ := Api.resolveCycles_eq_error known h
    exact ⟨cycle, rfl⟩
  | ok answer =>
    refine absurd h (Api.resolveCycles_ne_ok_of_zigzag chainApi_typesAcyclic
      (x := .ofIdentifiers ["x"] none) (y := .ofIdentifiers ["y"] none)
      (a := ⟨"A"⟩) (b := ⟨"B"⟩) (c := ⟨"C"⟩) (d := ⟨"D"⟩) (e := ⟨"E"⟩)
      (next ⟨_, rfl, by decide⟩) (next ⟨_, rfl, by decide⟩) (next ⟨_, rfl, by decide⟩)
      (next ⟨_, rfl, by decide⟩) ?_ ?_ ?_ answer.1 answer.2)
    · decide +kernel
    · decide +kernel
    · decide +kernel

theorem resolveCycles_of_typesAcyclic_chainApi :
    chainApi.ReferencesKnown ∧ chainApi.TypesAcyclic ∧ chainApi.SharedUnused ∧
      ((∃ corrected report, chainApi.resolveCycles "m" = .ok (corrected, report)) ∨
        ∃ cycle n s, chainApi.resolveCycles "m" = .error (.unresolvedCycle cycle) ∧ 1 ≤ n ∧
          Relocating.Rounds "m" n ⟨chainApi, []⟩ s ∧ s.Deadlocked "m" chainApi cycle) := by
  have known : chainApi.ReferencesKnown := by decide
  have unused : chainApi.SharedUnused := by decide +kernel
  exact ⟨known, chainApi_typesAcyclic, unused,
    Api.resolveCycles_of_typesAcyclic known chainApi_typesAcyclic unused "m"⟩

end SdkLayout
