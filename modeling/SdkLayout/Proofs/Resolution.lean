import SdkLayout.Graph.Resolution
import SdkLayout.Proofs.ReferenceGraphs

/-!
# Runs of the resolution of import cycles

Resolution is a loop over states. `Round` says when the loop goes on and to which state, `Ends` what
it answers in a state in which it does not. Every call of `resolve` is a finite run of rounds to a
state in which the loop ends (`resolve_run`), so that a property of its answer follows from what a
round preserves.

Two things are preserved whatever moves: the invariant `Sound`, and the API but for the paths of its
types (`Api.mapPaths`), references included. Of these paths not much is new: a type moves to where
another one was, or to the shared package of such a place (`Api.path_of_resolveCycles`).
-/

namespace SdkLayout

/-! ### APIs that differ in the paths of types -/

namespace Api

/-- The API with other paths for its types. -/
def mapPaths (f : TypeId → DeclarationPath → DeclarationPath) (api : Api) : Api :=
  { api with types := api.types.mapEntries fun id t => { t with path := f id t.path } }

section MapPaths

variable (f : TypeId → DeclarationPath → DeclarationPath) (api : Api)

@[simp] theorem keys_mapPaths : (api.mapPaths f).types.keys = api.types.keys :=
  Table.keys_mapEntries ..

theorem get?_mapPaths (id : TypeId) :
    (api.mapPaths f).types.get? id =
      (api.types.get? id).map fun t => { t with path := f id t.path } :=
  Table.get?_mapEntries ..

theorem mapPaths_id : api.mapPaths (fun _ p => p) = api := by
  have h : (api.types.mapEntries fun id t => { t with path := t.path }) = api.types :=
    Table.mapEntries_self ..
  rw [mapPaths, h]

theorem mapPaths_mapPaths (f' : TypeId → DeclarationPath → DeclarationPath) :
    (api.mapPaths f).mapPaths f' = api.mapPaths fun id p => f' id (f id p) := by
  have h : ((api.mapPaths f).types.mapEntries fun id t => { t with path := f' id t.path }) =
      api.types.mapEntries fun id t => { t with path := f' id (f id t.path) } := by
    simp only [mapPaths, Table.mapEntries_mapEntries]
  rw [mapPaths, h]
  rfl

/-- References do not depend on paths. -/
@[simp] theorem refers_mapPaths {a b : TypeId} : (api.mapPaths f).Refers a b ↔ api.Refers a b := by
  constructor
  · rintro ⟨t, ht, hb⟩
    rw [get?_mapPaths] at ht
    obtain ⟨t', ht', rfl⟩ := Option.map_eq_some_iff.1 ht
    exact ⟨t', ht', hb⟩
  · rintro ⟨t, ht, hb⟩
    exact ⟨{ t with path := f a t.path }, by rw [get?_mapPaths, ht, Option.map_some], hb⟩

end MapPaths

theorem referencesKnown_iff {api : Api} :
    api.ReferencesKnown ↔ ∀ a b, api.Refers a b → b ∈ api.types.keys := by
  constructor
  · rintro h a b ⟨t, ht, hb⟩
    exact h (a, t) (Table.get?_eq_some_iff.1 ht) b hb
  · intro h e he b hb
    exact h e.1 b ⟨e.2, Table.get?_eq_some_iff.2 he, hb⟩

theorem ReferencesKnown.mapPaths {api : Api} (h : api.ReferencesKnown)
    (f : TypeId → DeclarationPath → DeclarationPath) : (api.mapPaths f).ReferencesKnown := by
  rw [referencesKnown_iff] at h ⊢
  intro a b hab
  rw [keys_mapPaths]
  exact h a b ((refers_mapPaths f api).1 hab)

end Api

namespace Relocating

theorem api_relocate (cycle : List String) (origin destination : DeclarationPath) (s : Relocating)
    (id : TypeId) :
    (s.relocate cycle origin destination id).api =
      s.api.mapPaths fun other p => if other = id then destination else p := by
  -- Only the path of one entry differs, which is a change to all entries that spares the others.
  have h : (s.api.types.modify id fun t => { t with path := destination }) =
      s.api.types.mapEntries fun other t =>
        { t with path := if other = id then destination else t.path } := by
    rw [Table.modify]
    congr 1
    funext other t
    split <;> rfl
  rw [relocate, h]
  rfl

/-! ### Rounds and runs -/

/-- The loop goes on: there are cycles, and the round moves something. -/
def Round (importPath : String) (s t : Relocating) : Prop :=
  ∃ g, ReferenceGraph.build s.api importPath = .ok g ∧ g.importGraph.cycles ≠ [] ∧
    t = s.moveAll g g.importGraph.cycles ∧ t.relocations.length ≠ s.relocations.length

/-- So many rounds lead from one state to another. -/
inductive Rounds (importPath : String) : Nat → Relocating → Relocating → Prop where
  | none (s : Relocating) : Rounds importPath 0 s s
  | more {n : Nat} {s t u : Relocating} : Round importPath s t → Rounds importPath n t u →
      Rounds importPath (n + 1) s u

/-- The answer of the loop in a state in which it ends, when so many rounds were made before. -/
inductive Ends (importPath : String) (rounds : Nat) (s : Relocating) :
    Except LayoutError (Api × CycleReport) → Prop where
  | dangling {e : LayoutError} : ReferenceGraph.build s.api importPath = .error e →
      Ends importPath rounds s (.error e)
  | acyclic {g : ReferenceGraph} : ReferenceGraph.build s.api importPath = .ok g →
      g.importGraph.cycles = [] →
      Ends importPath rounds s (.ok (s.api, ⟨s.relocations, rounds + 1⟩))
  | stuck {g : ReferenceGraph} {first : List String} {others : List (List String)} :
      ReferenceGraph.build s.api importPath = .ok g → g.importGraph.cycles = first :: others →
      (s.moveAll g (first :: others)).relocations.length = s.relocations.length →
      Ends importPath rounds s (.error (.unresolvedCycle first))

/-- **The loop is a finite run.** From every sound state rounds lead to a state in which the loop
ends, and the answer is the one of that state. -/
theorem resolve_run (importPath : String) (rounds : Nat) (s : Relocating) (sound : s.Sound) :
    ∃ n t, Rounds importPath n s t ∧
      Ends importPath (rounds + n) t (resolve importPath rounds s sound) := by
  fun_induction resolve importPath rounds s sound with
  | case1 rounds s sound e built => exact ⟨0, s, .none s, .dangling built⟩
  | case2 rounds s sound g built acyclic => exact ⟨0, s, .none s, .acyclic built acyclic⟩
  | case3 rounds s sound g built first others cyclic next still =>
    exact ⟨0, s, .none s, .stuck built cyclic still⟩
  | case4 rounds s sound g built first others cyclic next moved ih =>
    obtain ⟨n, t, run, ends⟩ := ih
    have round : Round importPath s next := by
      refine ⟨g, built, by simp [cyclic], ?_, moved⟩
      rw [cyclic]
    refine ⟨n + 1, t, .more round run, ?_⟩
    -- The loop counts from the start, the run from here.
    rw [show rounds + (n + 1) = rounds + 1 + n by omega]
    exact ends

section Equations

variable {importPath : String} {rounds : Nat} {s : Relocating} {g : ReferenceGraph}

/-- The loop ends if there are no cycles. -/
theorem resolve_of_acyclic (sound : s.Sound) (built : ReferenceGraph.build s.api importPath = .ok g)
    (none : g.importGraph.cycles = []) :
    resolve importPath rounds s sound = .ok (s.api, ⟨s.relocations, rounds + 1⟩) := by
  rw [resolve]
  split
  · next failed => exact absurd (built.symm.trans failed) (by simp)
  next g' built' =>
  obtain rfl := Except.ok.inj (built.symm.trans built')
  split
  · rfl
  · next cyclic => exact absurd (none.symm.trans cyclic) (by simp)

/-- The loop goes on if a round moves something. -/
theorem resolve_of_moved (sound : s.Sound) (built : ReferenceGraph.build s.api importPath = .ok g)
    (cyclic : g.importGraph.cycles ≠ [])
    (moved : (s.moveAll g g.importGraph.cycles).relocations.length ≠ s.relocations.length) :
    resolve importPath rounds s sound =
      resolve importPath (rounds + 1) (s.moveAll g g.importGraph.cycles) (sound.moveAll g _) := by
  rw [resolve]
  split
  · next failed => exact absurd (built.symm.trans failed) (by simp)
  next g' built' =>
  obtain rfl := Except.ok.inj (built.symm.trans built')
  split
  · next none => exact absurd none cyclic
  · next first others heq =>
    rw [heq] at moved
    simp only [heq, dif_neg moved]

end Equations

section Run

variable {importPath : String} {n : Nat} {s t : Relocating}

theorem Round.length_lt (h : Round importPath s t) :
    s.relocations.length < t.relocations.length := by
  obtain ⟨g, -, -, rfl, moved⟩ := h
  have := (relocations_prefix_moveAll s g g.importGraph.cycles).length_le
  omega

/-- Every round makes a move. -/
theorem Rounds.length_le (h : Rounds importPath n s t) :
    s.relocations.length + n ≤ t.relocations.length := by
  induction h with
  | none => exact Nat.le_refl _
  | more round _ ih =>
    have := round.length_lt
    omega

/-- **Induction over a run.** What every admissible move preserves, the run preserves. -/
theorem Rounds.induction (h : Rounds importPath n s t) {P : Relocating → Prop}
    (step : ∀ g cycles u cycle origin destination id, P u →
      Admissible g cycles u cycle origin destination id →
        P (u.relocate cycle origin destination id)) (hs : P s) : P t := by
  induction h with
  | none => exact hs
  | more round _ ih =>
    obtain ⟨g, -, -, rfl, -⟩ := round
    -- The first round is a sequence of moves, the others are the rest of the run.
    exact ih (moveAll_induction (step g _) hs)

theorem Rounds.sound (h : Rounds importPath n s t) (hs : s.Sound) : t.Sound :=
  h.induction (fun _ _ _ cycle _ destination _ hu move =>
    hu.relocate move.found move.fresh cycle destination) hs

/-- A run changes nothing of the API but the paths of types. -/
theorem Rounds.exists_mapPaths (h : Rounds importPath n s t) :
    ∃ f, t.api = s.api.mapPaths f := by
  refine h.induction (P := fun u => ∃ f, u.api = s.api.mapPaths f) ?_
    ⟨fun _ p => p, (Api.mapPaths_id s.api).symm⟩
  rintro _ _ u cycle origin destination id ⟨f, hf⟩ -
  exact ⟨_, by rw [api_relocate, hf, Api.mapPaths_mapPaths]⟩

/-- Types move, their references do not. -/
theorem Rounds.refers_eq (h : Rounds importPath n s t) : t.api.Refers = s.api.Refers := by
  obtain ⟨f, hf⟩ := h.exists_mapPaths
  funext a b
  rw [hf, Api.refers_mapPaths]

/-- What holds of all paths and of the shared package of every path for which it holds, a run
preserves. -/
theorem Rounds.forall_pathOf? (h : Rounds importPath n s t) {P : DeclarationPath → Prop}
    (shared : ∀ p, P p → P p.shared) (hs : ∀ id p, s.pathOf? id = some p → P p) :
    ∀ id p, t.pathOf? id = some p → P p := by
  refine h.induction (P := fun u => ∀ id p, u.pathOf? id = some p → P p) ?_ hs
  intro _ _ u cycle origin destination id hu move
  -- The destination is the place of a type or the shared package of one.
  have arrived : P destination := by
    obtain ⟨other, p, hp, ⟨-, rfl⟩ | rfl⟩ := move.allowed
    · exact hu other _ hp
    · exact shared p (hu other p hp)
  intro other p hp
  rw [pathOf?_relocate] at hp
  split at hp
  · obtain ⟨_, -, rfl⟩ := Option.map_eq_some_iff.1 hp
    exact arrived
  · exact hu other p hp

end Run

end Relocating

/-- A corrected API is where a run ends, and has no import cycles. -/
theorem Api.resolveCycles_eq_ok {api corrected : Api} {importPath : String} {report : CycleReport}
    (h : api.resolveCycles importPath = .ok (corrected, report)) :
    ∃ n t, Relocating.Rounds importPath n ⟨api, []⟩ t ∧ corrected = t.api ∧
      report = ⟨t.relocations, n + 1⟩ ∧ corrected.ReferencesKnown ∧
      (ReferenceGraph.ofApi corrected importPath).importGraph.cycles = [] := by
  obtain ⟨n, t, run, ends⟩ := Relocating.resolve_run importPath 0 ⟨api, []⟩ (.initial api)
  rw [Api.resolveCycles] at h
  rw [h] at ends
  cases ends with
  | acyclic built none =>
    obtain ⟨known, rfl⟩ := ReferenceGraph.build_eq_ok_iff.1 built
    refine ⟨n, t, run, rfl, ?_, known, none⟩
    rw [Nat.zero_add]

/-- Correcting an API changes nothing but the paths of types. -/
theorem Api.exists_mapPaths_of_resolveCycles {api corrected : Api} {importPath : String}
    {report : CycleReport} (h : api.resolveCycles importPath = .ok (corrected, report)) :
    ∃ f, corrected = api.mapPaths f := by
  obtain ⟨_, _, run, rfl, -, -, -⟩ := resolveCycles_eq_ok h
  exact run.exists_mapPaths

/-- What holds of the paths of all types, and of the shared package of every path for which it
holds, is true of a corrected API as well. -/
theorem Api.path_of_resolveCycles {api corrected : Api} {importPath : String} {report : CycleReport}
    (h : api.resolveCycles importPath = .ok (corrected, report)) {P : DeclarationPath → Prop}
    (shared : ∀ p, P p → P p.shared)
    (types : ∀ id t, api.types.get? id = some t → P t.path) :
    ∀ id t, corrected.types.get? id = some t → P t.path := by
  obtain ⟨_, s, run, rfl, -, -, -⟩ := resolveCycles_eq_ok h
  intro id t ht
  refine run.forall_pathOf? shared ?_ id t.path (congrArg (Option.map TypeDeclaration.path) ht)
  intro other p hp
  obtain ⟨d, hd, rfl⟩ := Option.map_eq_some_iff.1 hp
  exact types other d hd

theorem Api.refers_of_resolveCycles {api corrected : Api} {importPath : String}
    {report : CycleReport} (h : api.resolveCycles importPath = .ok (corrected, report)) :
    corrected.Refers = api.Refers := by
  obtain ⟨_, _, run, rfl, -, -, -⟩ := resolveCycles_eq_ok h
  exact run.refers_eq

/-- If no reference is dangling, resolution can only fail because a round moves nothing. -/
theorem Api.exists_still_of_resolveCycles {api : Api} (known : api.ReferencesKnown)
    {importPath : String} {e : LayoutError} (h : api.resolveCycles importPath = .error e) :
    ∃ n s cycle, Relocating.Rounds importPath n ⟨api, []⟩ s ∧ e = .unresolvedCycle cycle ∧
      cycle ∈ (ReferenceGraph.ofApi s.api importPath).importGraph.cycles ∧
      (s.moveAll (ReferenceGraph.ofApi s.api importPath)
        (ReferenceGraph.ofApi s.api importPath).importGraph.cycles).relocations.length =
          s.relocations.length := by
  obtain ⟨n, s, run, ends⟩ := Relocating.resolve_run importPath 0 ⟨api, []⟩ (.initial api)
  obtain ⟨f, hf⟩ := run.exists_mapPaths
  rw [Api.resolveCycles] at h
  rw [h] at ends
  cases ends with
  -- References survive the moves, so that no round can come upon a missing type.
  | dangling failed =>
    rw [hf, ReferenceGraph.build_of_known (known.mapPaths f)] at failed
    exact absurd failed (by simp)
  | @stuck g first others built cyclic still =>
    obtain ⟨-, rfl⟩ := ReferenceGraph.build_eq_ok_iff.1 built
    rw [← cyclic] at still
    exact ⟨n, s, first, run, rfl, cyclic ▸ List.mem_cons_self, still⟩

/-- If no reference is dangling, resolution can only fail on a cycle. -/
theorem Api.resolveCycles_eq_error {api : Api} (known : api.ReferencesKnown) {importPath : String}
    {e : LayoutError} (h : api.resolveCycles importPath = .error e) :
    ∃ packages, e = .unresolvedCycle packages := by
  obtain ⟨_, _, cycle, -, rfl, -, -⟩ := exists_still_of_resolveCycles known h
  exact ⟨cycle, rfl⟩

end SdkLayout
