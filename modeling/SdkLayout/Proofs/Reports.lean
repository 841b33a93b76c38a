import Mathlib.Data.List.Forall2
import SdkLayout.Project.Check
import SdkLayout.Project.Explanation
import SdkLayout.Proofs.PlanningFailures

/-!
# Three views of one run

Checking a project, planning it and explaining it make the same run and tell of it in different
ways: a check sorts the diagnostics by severity, a plan comes with the warnings, and an explanation
lists what was corrected, as the cycle report, the package tree and the plan have it. They agree
because every phase reports each of its corrections by one diagnostic, in order.

For planning this is about the command without files (`Project.runPlan_without_files`).

The diagnostics of a successful run come in four blocks, each of a single severity
(`Planned.context`): the lints warn, moves and demotions are informative, and fallbacks are warnings
again. So what a view selects are whole blocks (`Planned.ofSeverity_diagnostics`), and each of the
three views can be read off the results of the run (`Project.check_of_planned` and its siblings).
-/

namespace SdkLayout

/-! ### Diagnostics of a severity -/

/-- The diagnostics of a severity. -/
def ofSeverity (s : Severity) (diagnostics : List Diagnostic) : List Diagnostic :=
  diagnostics.filter fun d => decide (d.severity = s)

@[simp] theorem ofSeverity_append (s : Severity) (a b : List Diagnostic) :
    ofSeverity s (a ++ b) = ofSeverity s a ++ ofSeverity s b :=
  List.filter_append a b

/-- Of diagnostics of a single severity, all or none are selected. -/
theorem ofSeverity_of_forall {s t : Severity} {diagnostics : List Diagnostic}
    (h : ∀ d ∈ diagnostics, d.severity = t) :
    ofSeverity s diagnostics = if t = s then diagnostics else [] := by
  unfold ofSeverity
  split
  · next same => exact List.filter_eq_self.2 fun d hd => by simp [h d hd, same]
  · next other => exact List.filter_eq_nil_iff.2 fun d hd => by simp [h d hd, other]

theorem ofSeverity_map {α : Type} {s t : Severity} {f : α → Diagnostic}
    (h : ∀ a, (f a).severity = t) (items : List α) :
    ofSeverity s (items.map f) = if t = s then items.map f else [] :=
  ofSeverity_of_forall fun d hd => by
    obtain ⟨a, -, rfl⟩ := List.mem_map.1 hd
    exact h a

/-- What the standard lints say about an API. -/
def Lint.standardWarnings (config : Config) (api : Api) : List Diagnostic :=
  standard.flatMap fun l => l.check api config

/-- The standard lints only warn. -/
theorem Lint.severity_of_mem_standardWarnings {config : Config} {api : Api} {d : Diagnostic}
    (h : d ∈ standardWarnings config api) : d.severity = .warning := by
  have warns : ∀ message location, (warning message location).severity = .warning := fun _ _ => rfl
  obtain ⟨l, hl, hd⟩ := List.mem_flatMap.1 h
  rcases List.mem_cons.1 hl with rfl | hl
  · obtain ⟨e, -, rfl⟩ := List.mem_map.1 hd
    exact warns ..
  · obtain rfl := List.mem_singleton.1 hl
    obtain ⟨e, -, rfl⟩ := List.mem_map.1 hd
    exact warns ..

namespace Planned

variable {config : Config} {api : Api} (r : Planned config api)

/-- The warnings of a run: those of the lints, and one for each fallback. -/
def warnings : List Diagnostic :=
  Lint.standardWarnings config api ++ r.plan.fallbacks.map Phase.fallbackNote

/-- The corrections of a run: one for each move, and one for each demotion. -/
def infos : List Diagnostic :=
  r.report.relocations.map Phase.relocationNote ++ r.tree.demoted.map Phase.demotionNote

/-- Of the four blocks of diagnostics, each is selected by its own severity alone. -/
theorem ofSeverity_diagnostics (s : Severity) :
    ofSeverity s r.context.diagnostics =
      match s with
      | .error => []
      | .warning => r.warnings
      | .info => r.infos := by
  have lints : ofSeverity s (Lint.standardWarnings config api) = _ :=
    ofSeverity_of_forall fun d hd => Lint.severity_of_mem_standardWarnings hd
  have moves := ofSeverity_map (s := s) (f := Phase.relocationNote) (fun _ => rfl)
    r.report.relocations
  have demotions := ofSeverity_map (s := s) (f := Phase.demotionNote) (fun _ => rfl)
    r.tree.demoted
  have fallbacks := ofSeverity_map (s := s) (f := Phase.fallbackNote) (fun _ => rfl)
    r.plan.fallbacks
  -- Moves and demotions are informative, lints and fallbacks are warnings.
  have blocks : r.context.diagnostics = Lint.standardWarnings config api
      ++ r.report.relocations.map Phase.relocationNote ++ r.tree.demoted.map Phase.demotionNote
      ++ r.plan.fallbacks.map Phase.fallbackNote := rfl
  rw [blocks]
  simp only [ofSeverity_append, lints, moves, demotions, fallbacks]
  cases s with
  | error => simp
  | warning => simp [warnings]
  | info => simp [infos]

theorem isWarning_of_mem_warnings {d : Diagnostic} (h : d ∈ r.warnings) : d.isWarning = true := by
  have selected : ofSeverity .warning r.context.diagnostics = r.warnings :=
    r.ofSeverity_diagnostics .warning
  rw [← selected] at h
  exact (List.mem_filter.1 h).2

end Planned

/-! ### The views -/

namespace Project

/-- Without an output file and without snapshots, the command that plans a project touches no file
and answers with the plan itself. -/
theorem runPlan_without_files {m : Type → Type} [Monad m] [LawfulMonad m] (files : FileAccess m)
    (p : Project) : runPlan files ⟨none, false⟩ p = pure p.plan := by
  have watched : (watchPhases (fun _ => none) Phase.builtin (.new p.config p.api)).2 =
      planning p.config p.api := watchPhases_none_snd ..
  rw [plan, runPlan, ← watched]
  simp only [planReport, writePlan, pure_bind, Bool.false_eq_true, if_false, if_true]
  cases finish (watchPhases (fun _ => none) Phase.builtin (.new p.config p.api)).2 with
  | error e => rfl
  | ok result => rfl

variable {p : Project}

/-- A project that cannot be planned. -/
structure Refused (p : Project) (e : PlanningError) : Prop where
  check : p.check = ⟨p.file.path, [e.message], [], []⟩
  plan : p.plan = .error (.planning e)
  explain : p.explain = .error (.explaining e)

theorem refused_of_planning {e : PlanningError} (h : planning p.config p.api = .error e) :
    p.Refused e where
  check := by rw [Project.check, h]
  plan := by rw [Project.plan, h]; rfl
  explain := by rw [Project.explain, h]; rfl

/-- The report of a check, as the results of the run have it. -/
def checked (r : Planned p.config p.api) : CheckReport where
  path := p.file.path
  errors := []
  warnings := r.warnings.map Diagnostic.note
  infos := r.infos.map Diagnostic.note

/-- The report of planning, as the results of the run have it. -/
def planned (r : Planned p.config p.api) : PlanReport where
  plan := r.plan
  warnings := r.warnings.map Diagnostic.display
  written := none
  snapshotDirectory := none

/-- The explanation, as the results of the run have it. -/
def explained (r : Planned p.config p.api) : Explanation where
  path := p.file.path
  config := p.config
  plan := r.plan
  relocations := r.report.relocations.map Relocation.correction
  demotions := r.tree.demoted.map demotionCorrection

theorem check_of_planned (r : Planned p.config p.api) : p.check = checked r := by
  have run : planning p.config p.api = .ok r.context := planning_eq_ok_iff.2 ⟨r, rfl⟩
  rw [check, run]
  -- A check selects each severity once.
  change CheckReport.mk _ ((ofSeverity .error _).map _) ((ofSeverity .warning _).map _)
    ((ofSeverity .info _).map _) = _
  simp only [r.ofSeverity_diagnostics]
  rfl

theorem plan_of_planned (r : Planned p.config p.api) : p.plan = .ok (planned r) := by
  have run : planning p.config p.api = .ok r.context := planning_eq_ok_iff.2 ⟨r, rfl⟩
  rw [plan, run]
  change Except.ok (PlanReport.mk _ ((ofSeverity .warning r.context.diagnostics).map _) _ _) = _
  rw [r.ofSeverity_diagnostics]
  rfl

theorem explain_of_planned (r : Planned p.config p.api) : p.explain = .ok (explained r) := by
  have run : planning p.config p.api = .ok r.context := planning_eq_ok_iff.2 ⟨r, rfl⟩
  rw [explain, run]
  rfl

theorem isValid_of_planned (r : Planned p.config p.api) : p.check.isValid = true := by
  rw [check_of_planned r]
  rfl

/-! ### Agreement -/

/-- A note of a check that tells of a type that moved. -/
def TellsMove (note : String) (c : Correction) : Prop :=
  ∃ cycle, note = "moved from " ++ c.origin ++ " to " ++ c.destination ++ " to break the cycle "
    ++ cycle ++ "\n  --> " ++ c.subject

/-- A note of a check that tells of a demoted subpackage. -/
def TellsDemotion (note : String) (c : Correction) : Prop :=
  ∃ path : DeclarationPath, c.destination = path.display ∧
    note = "demoted into its own package '" ++ "/".intercalate path.dirs ++ "/'"
      ++ "\n  --> " ++ c.subject

theorem tellsMove_note (r : Relocation) : TellsMove (Phase.relocationNote r).note r.correction :=
  ⟨_, rfl⟩

theorem tellsDemotion_note (e : SubpackageId × NormalSubpackage) :
    TellsDemotion (Phase.demotionNote e).note (demotionCorrection e) :=
  ⟨e.2.path, rfl, rfl⟩

/-- What a check, a plan and an explanation of the same project have in common. -/
structure Agree (p : Project) (report : PlanReport) (explanation : Explanation) : Prop where
  plan : explanation.plan = report.plan
  errors : p.check.errors = []
  /-- Moves first, then demotions, each in the order of the explanation. -/
  infos : ∃ moves demotions, p.check.infos = moves ++ demotions ∧
    List.Forall₂ TellsMove moves explanation.relocations ∧
    List.Forall₂ TellsDemotion demotions explanation.demotions
  /-- The same warnings in the same order, in the wording of either. -/
  warnings : ∃ diagnostics : List Diagnostic, (∀ d ∈ diagnostics, d.isWarning = true) ∧
    p.check.warnings = diagnostics.map Diagnostic.note ∧
    report.warnings = diagnostics.map Diagnostic.display
  /-- The last warnings are about the fallbacks of the explanation, in its order. -/
  fallbacks : p.check.warnings =
    (Lint.standardWarnings p.config p.api).map Diagnostic.note ++
      explanation.fallbacks.map fun a => (Phase.fallbackNote a).note

theorem agree_of_planned (r : Planned p.config p.api) : p.Agree (planned r) (explained r) where
  plan := rfl
  errors := by rw [check_of_planned r]; rfl
  infos := by
    refine ⟨r.report.relocations.map fun m => (Phase.relocationNote m).note,
      r.tree.demoted.map fun e => (Phase.demotionNote e).note, ?_, ?_, ?_⟩
    · rw [check_of_planned r, checked, Planned.infos, List.map_append, List.map_map, List.map_map]
      rfl
    -- Both lists come from the moves, one by one.
    · refine List.forall₂_map_left_iff.2 (List.forall₂_map_right_iff.2 (List.forall₂_same.2 ?_))
      exact fun m _ => tellsMove_note m
    · refine List.forall₂_map_left_iff.2 (List.forall₂_map_right_iff.2 (List.forall₂_same.2 ?_))
      exact fun e _ => tellsDemotion_note e
  warnings := by
    refine ⟨r.warnings, fun d hd => r.isWarning_of_mem_warnings hd, ?_, rfl⟩
    rw [check_of_planned r]
    rfl
  fallbacks := by
    rw [check_of_planned r, checked, Planned.warnings, List.map_append, List.map_map]
    rfl

/-- **Checking, planning and explaining agree.** A project is valid if and only if it can be
planned, and if and only if it can be explained. Then its check has no errors, an informative note
for every correction of the explanation, and the warnings of the plan, the last of which are about
the fallbacks of the explanation. -/
theorem check_agrees (p : Project) :
    (p.check.isValid = true ↔ ∃ report, p.plan = .ok report) ∧
      (p.check.isValid = true ↔ ∃ explanation, p.explain = .ok explanation) ∧
      ∀ report explanation, p.plan = .ok report → p.explain = .ok explanation →
        p.Agree report explanation := by
  -- All three run the same planning, so that its outcome decides about each.
  cases run : planning p.config p.api with
  | error e =>
    have refused := refused_of_planning run
    have invalid : p.check.isValid = false := by rw [refused.check]; rfl
    rw [invalid, refused.plan, refused.explain]
    simp
  | ok c =>
    obtain ⟨r, rfl⟩ := planning_eq_ok_iff.1 run
    have valid := isValid_of_planned r
    have plan := plan_of_planned r
    have explain := explain_of_planned r
    refine ⟨⟨fun _ => ⟨_, plan⟩, fun _ => valid⟩, ⟨fun _ => ⟨_, explain⟩, fun _ => valid⟩, ?_⟩
    intro report explanation hreport hexplanation
    obtain rfl := Except.ok.inj (plan.symm.trans hreport)
    obtain rfl := Except.ok.inj (explain.symm.trans hexplanation)
    exact agree_of_planned r

end Project

/-- A project with a demoted subpackage. -/
def nestedProject : Project :=
  ⟨⟨"placer.toml", .default⟩, .default, nestedApi⟩

theorem check_agrees_nestedProject :
    ∃ report explanation, nestedProject.plan = .ok report ∧
      nestedProject.explain = .ok explanation ∧ nestedProject.Agree report explanation := by
  obtain ⟨r⟩ : Nonempty (Planned nestedProject.config nestedProject.api) :=
    nonempty_planned_nestedApi
  have checked := Project.isValid_of_planned r
  obtain ⟨toPlan, toExplain, agree⟩ := Project.check_agrees nestedProject
  obtain ⟨report, hreport⟩ := toPlan.1 checked
  obtain ⟨explanation, hexplanation⟩ := toExplain.1 checked
  exact ⟨report, explanation, hreport, hexplanation, agree _ _ hreport hexplanation⟩

end SdkLayout
