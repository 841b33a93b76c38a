import Mathlib.Data.List.Perm.Basic
import Mathlib.Data.Set.List
import SdkLayout.Proofs.PlanningFailures

/-!
# The order of the phases

Between validation and placing come three phases: cycles are resolved, names are collected, and the
package tree is brought into normal form. The latter two look at the current API, which is the API
as read before cycles are resolved and the corrected one afterwards. Nevertheless the order of the
three does not matter.

The reason is that resolution changes nothing but the paths of types, and neither the registry nor
the package tree depends on these (`currentApi_afterMiddle`). So what a phase finds out, or whether
it fails, is known from the API alone (`MiddlePhase.failure?`), and the state after some of the
phases is a function of the phases that ran (`afterMiddle`). One step extends this history by the
phase that ran (`MiddlePhase.run_afterMiddle`), and so does a run by induction
(`runPhases_afterMiddle`).
-/

namespace SdkLayout

/-! ### What does not depend on the paths of types -/

section MapPaths

variable (f : TypeId → DeclarationPath → DeclarationPath) (api : Api)

theorem Registry.ofApi_mapPaths : Registry.ofApi (api.mapPaths f) = Registry.ofApi api := by
  have names : (api.mapPaths f).types.values.map (fun t => t.name.exported) =
      api.types.values.map fun t => t.name.exported := by
    simp [Api.mapPaths, Table.values, List.map_map, Function.comp_def]
  rw [ofApi, ofApi, exportedNames, exportedNames, names]
  rfl

theorem NormalTree.ofApi_mapPaths : NormalTree.ofApi (api.mapPaths f) = NormalTree.ofApi api :=
  ofApi_congr rfl rfl

end MapPaths

/-! ### The state after some phases -/

/-- The phases between validation and placing. -/
inductive MiddlePhase where
  | resolveCycles
  | collectNames
  | normalize
  deriving DecidableEq

namespace MiddlePhase

/-- The phase of planning. -/
def phase : MiddlePhase → Phase
  | resolveCycles => .resolveCycles
  | collectNames => .collectNames
  | normalize => .normalize

variable (config : Config) (api : Api)

/-- Why a phase fails on an API, if it does. -/
def failure? : MiddlePhase → Option LayoutError
  | resolveCycles =>
    match api.resolveCycles config.importPath with
    | .error e => some e
    | .ok _ => none
  | collectNames => none
  | normalize =>
    match NormalTree.ofApi api with
    | .error e => some e
    | .ok _ => none

/-- What a phase has to say about an API. -/
def notes : MiddlePhase → List Diagnostic
  | resolveCycles =>
    match api.resolveCycles config.importPath with
    | .error _ => []
    | .ok (_, report) => report.relocations.map Phase.relocationNote
  | collectNames => []
  | normalize =>
    match NormalTree.ofApi api with
    | .error _ => []
    | .ok tree => tree.demoted.map Phase.demotionNote

end MiddlePhase

/-- The state after the given phases, in the order in which they ran. Only the diagnostics depend on
this order. -/
def afterMiddle (config : Config) (api : Api) (done : List MiddlePhase) : Context where
  config
  api
  graph := none
  corrected :=
    if .resolveCycles ∈ done then (api.resolveCycles config.importPath).toOption.map Prod.fst
    else none
  cycles :=
    if .resolveCycles ∈ done then (api.resolveCycles config.importPath).toOption.map Prod.snd
    else none
  registry := if .collectNames ∈ done then some (.ofApi api) else none
  tree := if .normalize ∈ done then (NormalTree.ofApi api).toOption else none
  plan := none
  diagnostics := done.flatMap (MiddlePhase.notes config api)

theorem afterMiddle_nil (config : Config) (api : Api) :
    afterMiddle config api [] = .new config api := rfl

@[simp] theorem config_afterMiddle (config : Config) (api : Api) (done : List MiddlePhase) :
    (afterMiddle config api done).config = config := rfl

@[simp] theorem api_afterMiddle (config : Config) (api : Api) (done : List MiddlePhase) :
    (afterMiddle config api done).api = api := rfl

/-- Corrected or not, the current API is the API but for the paths of types. -/
theorem currentApi_afterMiddle (config : Config) (api : Api) (done : List MiddlePhase) :
    ∃ f, (afterMiddle config api done).currentApi = api.mapPaths f := by
  unfold afterMiddle Context.currentApi
  cases resolved : api.resolveCycles config.importPath with
  | error e => exact ⟨fun _ p => p, by simp [Except.toOption, Api.mapPaths_id]⟩
  | ok result =>
    obtain ⟨corrected, report⟩ := result
    by_cases ran : .resolveCycles ∈ done
    · obtain ⟨f, hf⟩ := Api.exists_mapPaths_of_resolveCycles resolved
      exact ⟨f, by simp [ran, Except.toOption, hf]⟩
    · exact ⟨fun _ p => p, by simp [ran, Api.mapPaths_id]⟩

section

variable {config : Config} {api : Api}

/-- One phase: it fails if it does so on the API, and otherwise adds itself to those that ran. -/
theorem MiddlePhase.run_afterMiddle (m : MiddlePhase) (done : List MiddlePhase) :
    m.phase.run (afterMiddle config api done) =
      match m.failure? config api with
      | some e => (afterMiddle config api done, .error (.layout e))
      | none => (afterMiddle config api (done ++ [m]), .ok ()) := by
  obtain ⟨f, current⟩ := currentApi_afterMiddle config api done
  cases m with
  | resolveCycles =>
    -- Cycles are resolved in the API as read, even if they were resolved before.
    change Phase.runResolveCycles _ = _
    unfold Phase.runResolveCycles failure?
    rw [api_afterMiddle, config_afterMiddle]
    cases resolved : api.resolveCycles config.importPath with
    | error e => rfl
    | ok result => simp [afterMiddle, Context.report, notes, resolved, Except.toOption]
  | collectNames =>
    -- This phase and the next look at the current API, of which they see no paths of types.
    change Phase.collectNames.run _ = _
    unfold Phase.collectNames
    simp only
    rw [current, Registry.ofApi_mapPaths]
    simp [afterMiddle, failure?, notes]
  | normalize =>
    change Phase.runNormalize _ = _
    unfold Phase.runNormalize failure?
    rw [current, NormalTree.ofApi_mapPaths]
    cases normal : NormalTree.ofApi api with
    | error e => rfl
    | ok tree => simp [afterMiddle, Context.report, notes, normal, Except.toOption]

/-- A run of phases: it ends with the failure of the first phase that has one, and otherwise adds
all its phases to those that ran. -/
theorem runPhases_afterMiddle (order done : List MiddlePhase) (rest : List Phase) :
    runPhases (order.map MiddlePhase.phase ++ rest) (afterMiddle config api done) =
      match order.findSome? (MiddlePhase.failure? config api) with
      | some e => .error (.layout e)
      | none => runPhases rest (afterMiddle config api (done ++ order)) := by
  induction order generalizing done with
  | nil => simp
  | cons m order ih =>
    rw [List.map_cons, List.cons_append, runPhases, m.run_afterMiddle, List.findSome?_cons]
    cases m.failure? config api with
    | some e => rfl
    | none =>
      -- The phase joins those that ran, and the rest of the order starts from there.
      have rest_run := ih (done ++ [m])
      rwa [List.append_assoc, List.singleton_append] at rest_run

/-- Where all middle phases ran, placing makes the plan of the corrected API. -/
theorem runPhases_place_afterMiddle {order : List MiddlePhase} (all : ∀ m, m ∈ order)
    {corrected : Api} {report : CycleReport} {tree : NormalTree}
    (resolved : api.resolveCycles config.importPath = .ok (corrected, report))
    (normal : NormalTree.ofApi api = .ok tree) :
    runPhases [.place] (afterMiddle config api order) =
      match Plan.build config corrected (.ofApi api) tree with
      | .error e => .error (.layout e)
      | .ok plan => .ok { (afterMiddle config api order).report
          (plan.fallbacks.map Phase.fallbackNote) with plan := some plan } := by
  have place : Phase.place.run (afterMiddle config api order) =
      Phase.runPlace (afterMiddle config api order) := rfl
  rw [runPhases, place, Phase.runPlace]
  -- Placing reads the corrected API, the registry and the tree, and each phase has left one of
  -- them.
  have current : (afterMiddle config api order).currentApi = corrected := by
    simp [Context.currentApi, afterMiddle, all, resolved, Except.toOption]
  have registry : (afterMiddle config api order).registry = some (.ofApi api) := if_pos (all _)
  have tree : (afterMiddle config api order).tree = some tree := by
    simp [afterMiddle, all, normal, Except.toOption]
  rw [registry, tree, current]
  simp only [config_afterMiddle]
  cases Plan.build config corrected (.ofApi api) _ with
  | error e => rfl
  | ok plan => rfl

end

/-! ### Orders of all middle phases -/

/-- An order of the middle phases among all phases is an order of the middle phases. -/
theorem MiddlePhase.exists_of_perm {order : List Phase}
    (h : order.Perm [.resolveCycles, .collectNames, .normalize]) :
    ∃ middle : List MiddlePhase, middle.map phase = order ∧ ∀ m, m ∈ middle := by
  -- The phases have different names, so that a list of phases stems from one list at most.
  have injective : Function.Injective phase := fun a b same => by
    have names := congrArg Phase.name same
    cases a <;> cases b <;> first | rfl | exact absurd names (by decide)
  obtain ⟨middle, rfl⟩ : order ∈ Set.range (List.map phase) := by
    rw [Set.range_list_map]
    intro p hp
    have known := h.mem_iff.1 hp
    simp only [List.mem_cons, List.not_mem_nil, or_false] at known
    obtain rfl | rfl | rfl := known
    · exact ⟨.resolveCycles, rfl⟩
    · exact ⟨.collectNames, rfl⟩
    · exact ⟨.normalize, rfl⟩
  have perm : middle.Perm [.resolveCycles, .collectNames, .normalize] :=
    (List.map_perm_map_iff injective).1 h
  exact ⟨middle, rfl, fun m => perm.mem_iff.2 (by cases m <;> simp)⟩

section

variable {config : Config} {api : Api} {order : List Phase}

/-- If one of the phases fails on the API, no order succeeds. -/
theorem runPhases_ne_ok_of_failure {m : MiddlePhase} {e : LayoutError}
    (failed : m.failure? config api = some e)
    (h : order.Perm [.resolveCycles, .collectNames, .normalize]) (c : Context) :
    runPhases (order ++ [.place]) (.new config api) ≠ .ok c := by
  obtain ⟨middle, rfl, all⟩ := MiddlePhase.exists_of_perm h
  rw [← afterMiddle_nil, runPhases_afterMiddle]
  split
  · simp
  · next none =>
    have succeeded := List.findSome?_eq_none_iff.1 none m (all m)
    exact absurd (failed.symm.trans succeeded) (by simp)

/-- If all phases succeed on the API, every order comes to be placed with the same results. -/
theorem exists_afterMiddle_of_perm {corrected : Api} {report : CycleReport} {tree : NormalTree}
    (resolved : api.resolveCycles config.importPath = .ok (corrected, report))
    (normal : NormalTree.ofApi api = .ok tree)
    (h : order.Perm [.resolveCycles, .collectNames, .normalize]) :
    ∃ middle : List MiddlePhase, (∀ m, m ∈ middle) ∧
      runPhases (order ++ [.place]) (.new config api) =
        runPhases [.place] (afterMiddle config api middle) := by
  obtain ⟨middle, rfl, all⟩ := MiddlePhase.exists_of_perm h
  refine ⟨middle, all, ?_⟩
  have none : middle.findSome? (MiddlePhase.failure? config api) = none :=
    List.findSome?_eq_none_iff.2 fun m _ => by
      cases m <;> simp [MiddlePhase.failure?, resolved, normal]
  rw [← afterMiddle_nil, runPhases_afterMiddle, none]
  rfl

/-- If a plan can be made of what the phases find out about the API, every order makes it. -/
theorem exists_runPhases_of_perm {corrected : Api} {report : CycleReport} {tree : NormalTree}
    {plan : Plan} (resolved : api.resolveCycles config.importPath = .ok (corrected, report))
    (normal : NormalTree.ofApi api = .ok tree)
    (placed : Plan.build config corrected (.ofApi api) tree = .ok plan)
    (h : order.Perm [.resolveCycles, .collectNames, .normalize]) :
    ∃ c, runPhases (order ++ [.place]) (.new config api) = .ok c ∧
      c.plan = some plan ∧ c.registry = some (.ofApi api) ∧ c.tree = some tree ∧
      c.corrected = some corrected ∧ c.cycles = some report := by
  obtain ⟨middle, all, run⟩ := exists_afterMiddle_of_perm resolved normal h
  have last := runPhases_place_afterMiddle all resolved normal
  rw [placed] at last
  refine ⟨_, run.trans last, rfl, ?_⟩
  simp [afterMiddle, Context.report, all, resolved, normal, Except.toOption]

end

/-- **The phases between validation and placing commute.** Run them in any order on a fresh state
and place afterwards: either no order yields a plan, or all of them do, with the same plan,
registry, package tree, corrected API and cycle report. -/
theorem middlePhases_commute (config : Config) (api : Api) :
    (∀ order : List Phase, order.Perm [.resolveCycles, .collectNames, .normalize] →
      ∀ c, runPhases (order ++ [.place]) (.new config api) ≠ .ok c) ∨
    ∃ plan registry tree corrected report,
      ∀ order : List Phase, order.Perm [.resolveCycles, .collectNames, .normalize] →
        ∃ c, runPhases (order ++ [.place]) (.new config api) = .ok c ∧
          c.plan = some plan ∧ c.registry = some registry ∧ c.tree = some tree ∧
          c.corrected = some corrected ∧ c.cycles = some report := by
  cases resolved : api.resolveCycles config.importPath with
  | error e =>
    have failed : MiddlePhase.resolveCycles.failure? config api = some e := by
      simp [MiddlePhase.failure?, resolved]
    exact .inl fun order => runPhases_ne_ok_of_failure failed
  | ok result =>
  obtain ⟨corrected, report⟩ := result
  cases normal : NormalTree.ofApi api with
  | error e =>
    have failed : MiddlePhase.normalize.failure? config api = some e := by
      simp [MiddlePhase.failure?, normal]
    exact .inl fun order => runPhases_ne_ok_of_failure failed
  | ok tree =>
  -- All orders come to the same state but for its diagnostics, which placing does not look at.
  cases placed : Plan.build config corrected (.ofApi api) tree with
  | error e =>
    refine .inl fun order h c => ?_
    obtain ⟨middle, all, run⟩ := exists_afterMiddle_of_perm resolved normal h
    rw [run, runPhases_place_afterMiddle all resolved normal, placed]
    simp
  | ok plan =>
    exact .inr ⟨plan, .ofApi api, tree, corrected, report, fun order =>
      exists_runPhases_of_perm resolved normal placed⟩

/-- What planning finds out, every order does. -/
theorem Planned.exists_runPhases_of_perm {config : Config} {api : Api} (r : Planned config api)
    {order : List Phase} (h : order.Perm [.resolveCycles, .collectNames, .normalize]) :
    ∃ c, runPhases (order ++ [.place]) (.new config api) = .ok c ∧
      c.plan = some r.plan ∧ c.registry = some (.ofApi api) ∧ c.tree = some r.tree ∧
      c.corrected = some r.corrected ∧ c.cycles = some r.report := by
  obtain ⟨f, moved⟩ := Api.exists_mapPaths_of_resolveCycles r.resolved
  have normal := r.normal
  have placed := r.placed
  rw [moved, NormalTree.ofApi_mapPaths] at normal
  have registry : Registry.ofApi r.corrected = .ofApi api := by
    rw [moved, Registry.ofApi_mapPaths]
  rw [registry] at placed
  exact SdkLayout.exists_runPhases_of_perm r.resolved normal placed h

theorem middlePhases_commute_nestedApi :
    ∃ plan registry tree corrected report,
      ∀ order : List Phase, order.Perm [.resolveCycles, .collectNames, .normalize] →
        ∃ c, runPhases (order ++ [.place]) (.new .default nestedApi) = .ok c ∧
          c.plan = some plan ∧ c.registry = some registry ∧ c.tree = some tree ∧
          c.corrected = some corrected ∧ c.cycles = some report := by
  obtain ⟨r⟩ := nonempty_planned_nestedApi
  -- One order yields a plan, so that the theorem says that all do.
  refine (middlePhases_commute .default nestedApi).resolve_left fun none => ?_
  obtain ⟨c, planned, -⟩ := r.exists_runPhases_of_perm (List.Perm.refl _)
  exact none _ (List.Perm.refl _) c planned

end SdkLayout
