import SdkLayout.Pipeline.Run

/-!
# What the phases of planning find out

One lemma per phase says what its success means: what the phase computed from the state, and the
state that it left. The lemmas are exact, so that nothing about a phase has to be unfolded again. A
run of phases succeeds if and only if each of them does, in turn (`runPhases_cons_eq_ok`). Together
they say what a successful planning is (`planning_eq_ok_iff`): the import cycles of the API can be
resolved, the result has a package tree in normal form, and a plan can be made of it.

The standard lints play no part in this. They only warn (`Lint.isError_of_mem_standard`).
-/

namespace SdkLayout

theorem runPhases_cons_eq_ok {p : Phase} {rest : List Phase} {c d : Context} :
    runPhases (p :: rest) c = .ok d ↔
      ∃ next, p.run c = (next, .ok ()) ∧ runPhases rest next = .ok d := by
  rw [runPhases]
  refine ⟨fun h => ?_, ?_⟩
  · split at h
    · exact absurd h (by simp)
    · next next run => exact ⟨next, run, h⟩
  · rintro ⟨next, run, h⟩
    rw [run]
    exact h

theorem runPhases_cons_of_ok {p : Phase} {rest : List Phase} {c next : Context}
    (h : p.run c = (next, .ok ())) : runPhases (p :: rest) c = runPhases rest next := by
  rw [runPhases, h]

/-- The first phase that fails decides what is reported. -/
theorem runPhases_cons_of_error {p : Phase} {rest : List Phase} {c : Context} {e : PlanningError}
    (h : (p.run c).2 = .error e) : runPhases (p :: rest) c = .error e := by
  have run : p.run c = ((p.run c).1, .error e) := Prod.ext rfl h
  rw [runPhases, run]

/-- The standard lints report no errors. -/
theorem Lint.isError_of_mem_standard {api : Api} {config : Config} {d : Diagnostic}
    (h : d ∈ Lint.standard.flatMap fun l => l.check api config) : d.isError = false := by
  have warns : ∀ message location, (warning message location).isError = false := fun _ _ => rfl
  obtain ⟨l, hl, hd⟩ := List.mem_flatMap.1 h
  rcases List.mem_cons.1 hl with rfl | hl
  · obtain ⟨e, -, rfl⟩ := List.mem_map.1 hd
    exact warns ..
  · obtain rfl := List.mem_singleton.1 hl
    obtain ⟨e, -, rfl⟩ := List.mem_map.1 hd
    exact warns ..

namespace Phase

variable {c next : Context}

/-- The state after validation. -/
def validated (lints : List Lint) (graph : ReferenceGraph) (c : Context) : Context :=
  { c.report (lints.flatMap fun l => l.check c.api c.config) with graph := some graph }

/-- Validation keeps the reference graph and finds no errors. -/
theorem validate_eq_ok {lints : List Lint} :
    (validateWith lints).run c = (next, .ok ()) ↔
      ∃ graph, ReferenceGraph.build c.api c.config.importPath = .ok graph ∧
        graph.checkImportPath = .ok () ∧ (validated lints graph c).hasErrors = false ∧
        next = validated lints graph c := by
  change runValidate lints c = _ ↔ _
  refine ⟨fun h => ?_, ?_⟩
  -- Before the lints come two checks that can fail: the references, and the import path.
  · unfold runValidate at h
    split at h
    · exact absurd (congrArg Prod.snd h) (by simp)
    next graph built =>
    split at h
    · exact absurd (congrArg Prod.snd h) (by simp)
    next path =>
    obtain ⟨rfl, answer⟩ := Prod.mk.inj h
    refine ⟨graph, built, path, ?_, rfl⟩
    split at answer
    · exact absurd answer (by simp)
    · next none => exact Bool.eq_false_iff.2 none
  · rintro ⟨graph, built, path, none, rfl⟩
    rw [runValidate, built]
    simp only [path, lintAndKeep]
    exact congrArg (Prod.mk _) (if_neg (Bool.eq_false_iff.1 none))

/-- The standard lints find no errors at the start. -/
theorem hasErrors_validated (config : Config) (api : Api) (graph : ReferenceGraph) :
    (validated Lint.standard graph (.new config api)).hasErrors = false := by
  have none : (validated Lint.standard graph (.new config api)).errors = [] := by
    refine List.filter_eq_nil_iff.2 fun d hd => ?_
    have warns : d.isError = false := Lint.isError_of_mem_standard hd
    rw [warns]
    exact Bool.false_ne_true
  rw [Context.hasErrors, none]
  rfl

/-- Resolution of cycles keeps the corrected API and reports every move. -/
theorem resolveCycles_eq_ok :
    resolveCycles.run c = (next, .ok ()) ↔
      ∃ corrected report, c.api.resolveCycles c.config.importPath = .ok (corrected, report) ∧
        next = { c.report (report.relocations.map relocationNote) with
          corrected := some corrected, cycles := some report } := by
  change runResolveCycles c = _ ↔ _
  refine ⟨fun h => ?_, ?_⟩
  · unfold runResolveCycles at h
    split at h
    · exact absurd (congrArg Prod.snd h) (by simp)
    · next corrected report resolved =>
      exact ⟨corrected, report, resolved, (congrArg Prod.fst h).symm⟩
  · rintro ⟨corrected, report, resolved, rfl⟩
    rw [runResolveCycles, resolved]

/-- Normalization keeps the package tree of the current API and reports what it demoted. -/
theorem normalize_eq_ok :
    normalize.run c = (next, .ok ()) ↔
      ∃ tree, NormalTree.ofApi c.currentApi = .ok tree ∧
        next = { c.report (tree.demoted.map demotionNote) with tree := some tree } := by
  change runNormalize c = _ ↔ _
  refine ⟨fun h => ?_, ?_⟩
  · unfold runNormalize at h
    split at h
    · exact absurd (congrArg Prod.snd h) (by simp)
    · next tree normal => exact ⟨tree, normal, (congrArg Prod.fst h).symm⟩
  · rintro ⟨tree, normal, rfl⟩
    rw [runNormalize, normal]

/-- Placing keeps the plan of the current API and warns of what a collision moved. -/
theorem place_eq_ok :
    place.run c = (next, .ok ()) ↔
      ∃ registry tree plan, c.registry = some registry ∧ c.tree = some tree ∧
        Plan.build c.config c.currentApi registry tree = .ok plan ∧
        next = { c.report (plan.fallbacks.map fallbackNote) with plan := some plan } := by
  change runPlace c = _ ↔ _
  refine ⟨fun h => ?_, ?_⟩
  · unfold runPlace at h
    split at h
    · exact absurd (congrArg Prod.snd h) (by simp)
    · exact absurd (congrArg Prod.snd h) (by simp)
    next registry tree hregistry htree =>
    split at h
    · exact absurd (congrArg Prod.snd h) (by simp)
    · next plan built =>
      exact ⟨registry, tree, plan, hregistry, htree, built, (congrArg Prod.fst h).symm⟩
  · rintro ⟨registry, tree, plan, hregistry, htree, built, rfl⟩
    rw [runPlace, hregistry, htree]
    simp only [built]

end Phase

/-! ### All phases -/

/-- The results of a successful planning. Each comes with what it is the result of. -/
structure Planned (config : Config) (api : Api) where
  graph : ReferenceGraph
  built : ReferenceGraph.build api config.importPath = .ok graph
  importable : graph.checkImportPath = .ok ()
  /-- The API without import cycles. -/
  corrected : Api
  report : CycleReport
  resolved : api.resolveCycles config.importPath = .ok (corrected, report)
  tree : NormalTree
  normal : NormalTree.ofApi corrected = .ok tree
  plan : Plan
  placed : Plan.build config corrected (.ofApi corrected) tree = .ok plan

/-- The state in which planning ends. -/
def Planned.context {config : Config} {api : Api} (r : Planned config api) : Context where
  config
  api
  graph := some r.graph
  corrected := some r.corrected
  cycles := some r.report
  registry := some (.ofApi r.corrected)
  tree := some r.tree
  plan := some r.plan
  diagnostics := (Lint.standard.flatMap fun l => l.check api config)
    ++ r.report.relocations.map Phase.relocationNote ++ r.tree.demoted.map Phase.demotionNote
    ++ r.plan.fallbacks.map Phase.fallbackNote

/-- **What a successful planning is**, from the inputs to the last diagnostic. -/
theorem planning_eq_ok_iff {config : Config} {api : Api} {c : Context} :
    planning config api = .ok c ↔ ∃ r : Planned config api, c = r.context := by
  refine ⟨fun h => ?_, ?_⟩
  · obtain ⟨_, h₁, h⟩ := runPhases_cons_eq_ok.1 h
    obtain ⟨_, h₂, h⟩ := runPhases_cons_eq_ok.1 h
    obtain ⟨_, h₃, h⟩ := runPhases_cons_eq_ok.1 h
    obtain ⟨_, h₄, h⟩ := runPhases_cons_eq_ok.1 h
    obtain ⟨_, h₅, h⟩ := runPhases_cons_eq_ok.1 h
    obtain rfl := Except.ok.inj h
    -- Each state is the one before with the results of one phase filled in.
    obtain ⟨graph, built, importable, -, rfl⟩ := Phase.validate_eq_ok.1 h₁
    obtain ⟨corrected, report, resolved, rfl⟩ := Phase.resolveCycles_eq_ok.1 h₂
    obtain rfl := congrArg Prod.fst h₃
    obtain ⟨tree, normal, rfl⟩ := Phase.normalize_eq_ok.1 h₄
    obtain ⟨registry, tree', plan, hregistry, htree, placed, rfl⟩ := Phase.place_eq_ok.1 h₅
    obtain rfl := Option.some.inj hregistry
    obtain rfl := Option.some.inj htree
    exact ⟨⟨graph, built, importable, corrected, report, resolved, tree, normal, plan, placed⟩, rfl⟩
  -- Conversely the results are put in where the phases compute them; all states are determined.
  · rintro ⟨r, rfl⟩
    have clean := Phase.hasErrors_validated config api r.graph
    refine runPhases_cons_eq_ok.2 ⟨_, Phase.validate_eq_ok.2
      ⟨r.graph, r.built, r.importable, clean, rfl⟩, ?_⟩
    refine runPhases_cons_eq_ok.2 ⟨_, Phase.resolveCycles_eq_ok.2
      ⟨r.corrected, r.report, r.resolved, rfl⟩, ?_⟩
    refine runPhases_cons_eq_ok.2 ⟨_, rfl, ?_⟩
    refine runPhases_cons_eq_ok.2 ⟨_, Phase.normalize_eq_ok.2 ⟨r.tree, r.normal, rfl⟩, ?_⟩
    refine runPhases_cons_eq_ok.2 ⟨_, Phase.place_eq_ok.2
      ⟨_, r.tree, r.plan, rfl, rfl, r.placed, rfl⟩, ?_⟩
    rfl

end SdkLayout
