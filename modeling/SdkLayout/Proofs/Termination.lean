import SdkLayout.Api.Builder
import SdkLayout.Proofs.Resolution

/-!
# The resolution of import cycles terminates

The loop has no bound of its own, and a move may create new packages and new, larger cycles. What
ends it is the invariant `Relocating.Sound`: each round but the last moves a type, no type moves
twice, and only types of the API move. Hence the numbers of rounds and of moves are bounded by the
number of types, and the only failure of an API without dangling references is a cycle that no move
breaks (`Api.resolveCycles_terminates`).
-/

namespace SdkLayout

namespace Relocating

variable {importPath : String} {n : Nat} {api : Api} {t : Relocating}

theorem Rounds.size_eq {s : Relocating} (run : Rounds importPath n s t) :
    t.api.types.size = s.api.types.size := by
  obtain ⟨f, hf⟩ := run.exists_mapPaths
  rw [← Table.length_keys, hf, Api.keys_mapPaths, Table.length_keys]

/-- There are never more rounds than moves, nor more moves than types. -/
theorem Rounds.bounds (run : Rounds importPath n ⟨api, []⟩ t) :
    n ≤ t.relocations.length ∧ t.relocations.length ≤ api.types.size := by
  have hmoves : 0 + n ≤ t.relocations.length := run.length_le
  have htypes := (run.sound (.initial api)).length_le
  rw [run.size_eq] at htypes
  exact ⟨by omega, htypes⟩

end Relocating

/-- **Resolution terminates, and no type moves twice.** For an API without dangling references, no
run of the loop makes more rounds than there are types. The loop answers with a corrected API or
with a cycle that it cannot break; the report of a corrected API lists no type twice, and its rounds
but the last are at most as many as its moves, which are at most as many as the types. -/
theorem Api.resolveCycles_terminates {api : Api} (known : api.ReferencesKnown)
    (importPath : String) :
    (∀ n t, Relocating.Rounds importPath n ⟨api, []⟩ t → n ≤ api.types.size) ∧
      ((∃ packages, api.resolveCycles importPath = .error (.unresolvedCycle packages)) ∨
        ∃ corrected report, api.resolveCycles importPath = .ok (corrected, report) ∧
          (report.relocations.map Relocation.type).Nodup ∧
          1 ≤ report.rounds ∧ report.rounds - 1 ≤ report.relocations.length ∧
          report.relocations.length ≤ api.types.size ∧
          report.rounds ≤ api.types.size + 1) := by
  refine ⟨fun n t run => Nat.le_trans run.bounds.1 run.bounds.2, ?_⟩
  obtain ⟨n, t, run, ends⟩ := Relocating.resolve_run importPath 0 ⟨api, []⟩ (.initial api)
  obtain ⟨hrounds, hmoves⟩ := run.bounds
  have once := (run.sound (.initial api)).once
  -- References survive the moves, so that no round can come upon a missing type.
  have built : ∃ g, ReferenceGraph.build t.api importPath = .ok g := by
    obtain ⟨f, hf⟩ := run.exists_mapPaths
    have known' : t.api.ReferencesKnown := by
      rw [hf]
      exact known.mapPaths f
    exact ⟨_, ReferenceGraph.build_of_known known' importPath⟩
  unfold Api.resolveCycles
  generalize Relocating.resolve importPath 0 ⟨api, []⟩ (.initial api) = answer at ends ⊢
  cases ends with
  | dangling failed =>
    obtain ⟨g, hg⟩ := built
    rw [hg] at failed
    exact absurd failed (by simp)
  | acyclic _ _ =>
    refine Or.inr ⟨t.api, ⟨t.relocations, 0 + n + 1⟩, rfl, once, ?_, ?_, hmoves, ?_⟩
    · simp only
      omega
    · simp only
      omega
    · simp only
      omega
  | stuck _ _ _ => exact Or.inl ⟨_, rfl⟩

/-- An API whose types move in two rounds: the second has to join what the first moved. -/
def tangledApi : Api :=
  Api.empty (.ofIdentifier "acme")
    |>.addObject "T0" (.ofIdentifiers ["z"] none) ["T3"]
    |>.addObject "T1" .root ["T3"]
    |>.addObject "T2" (.ofIdentifiers ["z"] none) ["T0"]
    |>.addObject "T3" (.ofIdentifiers ["z"] none) ["T0", "T1", "T2"]

theorem resolveCycles_terminates_tangledApi :
    tangledApi.ReferencesKnown ∧
      (∀ n t, Relocating.Rounds "m" n ⟨tangledApi, []⟩ t → n ≤ tangledApi.types.size) ∧
      ((∃ packages, tangledApi.resolveCycles "m" = .error (.unresolvedCycle packages)) ∨
        ∃ corrected report, tangledApi.resolveCycles "m" = .ok (corrected, report) ∧
          (report.relocations.map Relocation.type).Nodup ∧
          1 ≤ report.rounds ∧ report.rounds - 1 ≤ report.relocations.length ∧
          report.relocations.length ≤ tangledApi.types.size ∧
          report.rounds ≤ tangledApi.types.size + 1) := by
  have known : tangledApi.ReferencesKnown := by decide
  exact ⟨known, Api.resolveCycles_terminates known "m"⟩

end SdkLayout
