import SdkLayout.Proofs.CycleReports
import SdkLayout.Proofs.PackageTrees
import SdkLayout.Proofs.Phases
import SdkLayout.Proofs.PlacedFiles
import SdkLayout.Proofs.Violations

/-!
# Valid definitions can be planned

Validation is written apart from the look-ups of planning. What it has to do with them is said by
`Api.Intact`: no reference is dangling, and the package tree is closed. A valid definition is intact
(`Api.intact_of_validate`), and stays so when types move (`Api.Intact.mapPaths`).

For an intact definition whose usage information is known, nothing that comes after resolution can
fail (`Api.Intact.exists_plan`), so that its planning succeeds as soon as it may be imported and its
cycles can be resolved (`Api.Intact.exists_planning`). The two ways in which this can fail are those
of the planning, with the same error (`planning_of_unimportable`, `planning_of_unresolved`).
-/

namespace SdkLayout

namespace Api

variable {api : Api}

/-! ### What validation finds out -/

/-- What planning relies on: no reference is dangling, and the package tree is closed. -/
structure Intact (api : Api) : Prop where
  references : api.ReferencesKnown
  tree : api.TreeClosed

theorem intact_of_validate (h : api.validate = .ok ()) : api.Intact := by
  have valid := validate_eq_ok_iff.1 h
  exact
    { references := fun e he => valid.references e.1 e.2 (Table.get?_eq_some_iff.2 he)
      tree := ⟨valid.rootChildren, valid.services, valid.children⟩ }

/-! ### Moves -/

theorem Intact.mapPaths (h : api.Intact) (f : TypeId → DeclarationPath → DeclarationPath) :
    (api.mapPaths f).Intact where
  references := h.references.mapPaths f
  tree := ⟨h.tree.rootChildren, h.tree.services, h.tree.children⟩

theorem UsageKnown.mapPaths (h : api.UsageKnown)
    (f : TypeId → DeclarationPath → DeclarationPath) : (api.mapPaths f).UsageKnown := by
  unfold UsageKnown
  rw [keys_mapPaths]
  exact h

/-! ### Planning -/

/-- An intact API has a package tree in normal form and a plan. -/
theorem Intact.exists_plan (h : api.Intact) (usage : api.UsageKnown) (config : Config)
    (registry : Registry) :
    ∃ tree plan, NormalTree.ofApi api = .ok tree ∧
      Plan.build config api registry tree = .ok plan := by
  obtain ⟨tree, normal, subpackages⟩ := NormalTree.exists_ofApi h.tree
  obtain ⟨files, placed⟩ := exists_placeFiles usage config.mode.placesRequests
  obtain ⟨clients, hclients⟩ : ∃ clients,
      (if config.mode.placesClient then api.placeClients tree else .ok []) = .ok clients := by
    split
    · exact exists_placeClients h.tree subpackages
    · exact ⟨[], rfl⟩
  refine ⟨tree, ?_⟩
  rw [Plan.build, placed, hclients]
  exact ⟨_, normal, rfl⟩

/-- Planning succeeds as soon as imports are possible and cycles can be resolved. -/
theorem Intact.exists_planning (h : api.Intact) (usage : api.UsageKnown) {config : Config}
    (importable : (ReferenceGraph.ofApi api config.importPath).checkImportPath = .ok ())
    {corrected : Api} {report : CycleReport}
    (resolved : api.resolveCycles config.importPath = .ok (corrected, report)) :
    ∃ c, planning config api = .ok c ∧ c.corrected = some corrected ∧ c.cycles = some report := by
  obtain ⟨f, rfl⟩ := exists_mapPaths_of_resolveCycles resolved
  obtain ⟨tree, plan, normal, placed⟩ :=
    (h.mapPaths f).exists_plan (usage.mapPaths f) config (.ofApi (api.mapPaths f))
  -- The tree and the plan are those of the corrected API, which differs in the paths of types only.
  let planned : Planned config api :=
    { graph := _
      built := ReferenceGraph.build_of_known h.references _
      importable
      corrected := _
      report
      resolved
      tree
      normal
      plan
      placed }
  exact ⟨planned.context, planning_eq_ok_iff.2 ⟨planned, rfl⟩, rfl, rfl⟩

end Api

/-! ### Failures -/

section Failures

variable {config : Config} {api : Api} (known : api.ReferencesKnown)

include known

/-- In the context in which planning begins, the graph is that of the API. -/
theorem build_new : ReferenceGraph.build (Context.new config api).api
    (Context.new config api).config.importPath =
      .ok (ReferenceGraph.ofApi api config.importPath) :=
  ReferenceGraph.build_of_known known _

/-- If an import path is missing, planning says so. -/
theorem planning_of_unimportable {e : LayoutError}
    (h : (ReferenceGraph.ofApi api config.importPath).checkImportPath = .error e) :
    planning config api = .error (.layout e) := by
  refine runPhases_cons_of_error ?_
  change (Phase.runValidate Lint.standard (.new config api)).2 = _
  rw [Phase.runValidate, build_new known]
  simp only [h]

/-- If cycles cannot be resolved, planning says so. -/
theorem planning_of_unresolved {e : LayoutError}
    (importable : (ReferenceGraph.ofApi api config.importPath).checkImportPath = .ok ())
    (h : api.resolveCycles config.importPath = .error e) :
    planning config api = .error (.layout e) := by
  have clean := Phase.hasErrors_validated config api (ReferenceGraph.ofApi api config.importPath)
  have validated := Phase.validate_eq_ok.2 ⟨_, build_new known, importable, clean, rfl⟩
  refine (runPhases_cons_of_ok validated).trans (runPhases_cons_of_error ?_)
  -- Validation has left the API and the configuration as they were.
  have failed : ∀ c : Context, c.api = api → c.config = config →
      (Phase.runResolveCycles c).2 = .error (.layout e) := by
    rintro c rfl rfl
    rw [Phase.runResolveCycles, h]
  exact failed _ rfl rfl

end Failures

end SdkLayout
