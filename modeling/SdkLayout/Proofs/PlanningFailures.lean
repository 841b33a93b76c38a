import SdkLayout.Proofs.ValidApis

/-!
# How planning a valid definition can fail

There are two ways (`planning_of_valid`). Without an import path no type may refer to a type of
another package, and the first reference that does so is reported; if there is none, there is
nothing to resolve either. With an import path all depends on whether the import cycles can be
resolved.
-/

namespace SdkLayout

namespace Api

variable {api : Api} {importPath : String}

/-! ### References across packages -/

/-- The package of a type. -/
def packageOf (api : Api) (importPath : String) (id : TypeId) : Option String :=
  (api.types.get? id).map fun t => packageIdentity importPath t.path

theorem exists_packageOf (importPath : String) {id : TypeId} (h : id ∈ api.types.keys) :
    ∃ p, api.packageOf importPath id = some p := by
  obtain ⟨t, ht⟩ := Table.mem_keys_iff.1 h
  exact ⟨_, by rw [packageOf, ht, Option.map_some]⟩

/-- The references of all types, in the order of the document. -/
def references (api : Api) : List (TypeId × TypeId) :=
  api.types.entries.flatMap fun e => e.2.references.toList.map fun r => (e.1, r)

/-- The first reference, in the order of the document, to a type of another package. -/
def firstCrossing (api : Api) (importPath : String) : Option (TypeId × TypeId) :=
  api.references.find? fun r => api.packageOf importPath r.1 != api.packageOf importPath r.2

theorem mem_references {r : TypeId × TypeId} : r ∈ api.references ↔ api.Refers r.1 r.2 := by
  rw [references, List.mem_flatMap]
  constructor
  · rintro ⟨e, he, hr⟩
    obtain ⟨id, hid, rfl⟩ := List.mem_map.1 hr
    exact ⟨e.2, Table.get?_eq_some_iff.2 he, hid⟩
  · rintro ⟨t, ht, hr⟩
    exact ⟨(r.1, t), Table.get?_eq_some_iff.1 ht, List.mem_map.2 ⟨r.2, hr, rfl⟩⟩

theorem firstCrossing_eq_none_iff :
    api.firstCrossing importPath = none ↔
      ∀ a b, api.Refers a b → api.packageOf importPath a = api.packageOf importPath b := by
  rw [firstCrossing, List.find?_eq_none]
  simp only [mem_references, bne_iff_ne, ne_eq, Decidable.not_not]
  exact ⟨fun h a b refers => h (a, b) refers, fun h r refers => h r.1 r.2 refers⟩

/-- The first cross reference of the graph is the first one of the document: references to oneself
cross nothing. -/
theorem head?_crossReferences :
    (ReferenceGraph.ofApi api importPath).crossReferences.head? = api.firstCrossing importPath := by
  have all : (ReferenceGraph.ofApi api importPath).references =
      api.references.filter fun r => decide (r.2 ≠ r.1) := by
    rw [ReferenceGraph.ofApi, references, List.filter_flatMap]
    refine List.flatMap_congr fun e _ => ?_
    rw [ReferenceGraph.ownReferences, List.filter_map]
    rfl
  have package : (ReferenceGraph.ofApi api importPath).packageOf = api.packageOf importPath :=
    funext (ReferenceGraph.packageOf_ofApi api importPath)
  rw [ReferenceGraph.crossReferences, List.head?_filter, all, List.find?_filter, package,
    firstCrossing]
  congr 1
  funext r
  -- A reference of a type to itself, which the graph leaves out, would not be found either.
  by_cases self : r.2 = r.1
  · simp [self]
  · simp only [ne_eq, self, not_false_eq_true, decide_true, true_and, Bool.decide_eq_true]

theorem checkImportPath_of_firstCrossing {a b : TypeId} (h : api.firstCrossing "" = some (a, b)) :
    (ReferenceGraph.ofApi api "").checkImportPath = .error (.missingImportPath a b) := by
  rw [← head?_crossReferences, List.head?_eq_some_iff] at h
  obtain ⟨others, cross⟩ := h
  have missing : (ReferenceGraph.ofApi api "").importPath.isEmpty = true := rfl
  rw [ReferenceGraph.checkImportPath, if_pos missing, cross]

theorem crossReferences_eq_nil (h : api.firstCrossing importPath = none) :
    (ReferenceGraph.ofApi api importPath).crossReferences = [] := by
  rwa [← head?_crossReferences, List.head?_eq_none_iff] at h

/-- Where no reference crosses packages, there is nothing to resolve. -/
theorem resolveCycles_of_firstCrossing (known : api.ReferencesKnown)
    (h : api.firstCrossing importPath = none) :
    api.resolveCycles importPath = .ok (api, ⟨[], 1⟩) := by
  refine resolveCycles_of_acyclic known (Digraph.cycles_eq_nil_of_not_edge ?_ fun p q edge => ?_)
  · exact nodup_sortedStrings _
  · rw [Digraph.Edge, ReferenceGraph.importGraph, crossReferences_eq_nil h] at edge
    exact absurd edge (by simp)

end Api

/-! ### The two ways -/

theorem checkImportPath_of_ne_empty (api : Api) {importPath : String} (h : importPath ≠ "") :
    (ReferenceGraph.ofApi api importPath).checkImportPath = .ok () := by
  refine ReferenceGraph.checkImportPath_eq_ok_iff.2 fun missing => absurd ?_ h
  exact String.isEmpty_iff.1 missing

section Valid

variable {api : Api} {config : Config}

/-- Without an import path, planning succeeds and moves nothing if no reference crosses packages. -/
theorem exists_planning_of_inside (intact : api.Intact) (usage : api.UsageKnown)
    (path : config.importPath = "") (inside : api.firstCrossing "" = none) :
    ∃ c, planning config api = .ok c ∧ c.corrected = some api ∧ c.cycles = some ⟨[], 1⟩ := by
  refine intact.exists_planning usage ?_ ?_
  · exact ReferenceGraph.checkImportPath_eq_ok_iff.2 fun _ =>
      Api.crossReferences_eq_nil (path ▸ inside)
  · rw [path]
    exact Api.resolveCycles_of_firstCrossing intact.references inside

/-- Where no reference crosses packages, the plan is one of the API as it was read. -/
theorem exists_plan_of_inside (intact : api.Intact) (usage : api.UsageKnown)
    (inside : api.firstCrossing config.importPath = none) :
    ∃ c p tree, planning config api = .ok c ∧ c.plan = some p ∧
      Plan.build config api (.ofApi api) tree = .ok p := by
  have importable : (ReferenceGraph.ofApi api config.importPath).checkImportPath = .ok () :=
    ReferenceGraph.checkImportPath_eq_ok_iff.2 fun _ => Api.crossReferences_eq_nil inside
  obtain ⟨c, ok, corrected, -⟩ := intact.exists_planning usage importable
    (Api.resolveCycles_of_firstCrossing intact.references inside)
  obtain ⟨r, rfl⟩ := planning_eq_ok_iff.1 ok
  have placed := r.placed
  rw [Option.some.inj corrected] at placed
  exact ⟨_, r.plan, r.tree, ok, rfl, placed⟩

/-- Without an import path, planning succeeds and moves nothing if no reference crosses packages,
and else reports the first one that does. -/
theorem planning_without_importPath (intact : api.Intact) (usage : api.UsageKnown)
    (path : config.importPath = "") :
    (api.firstCrossing "" = none ∧ ∃ c, planning config api = .ok c ∧ c.corrected = some api ∧
        c.cycles = some ⟨[], 1⟩) ∨
      ∃ a b, api.firstCrossing "" = some (a, b) ∧
        planning config api = .error (.layout (.missingImportPath a b)) := by
  cases crossing : api.firstCrossing "" with
  | none => exact .inl ⟨rfl, exists_planning_of_inside intact usage path crossing⟩
  | some r =>
    refine .inr ⟨r.1, r.2, rfl, planning_of_unimportable intact.references ?_⟩
    rw [path]
    exact Api.checkImportPath_of_firstCrossing crossing

/-- With an import path, planning succeeds if the cycles can be resolved, and else reports a cycle
that cannot. -/
theorem planning_with_importPath (intact : api.Intact) (usage : api.UsageKnown)
    (path : config.importPath ≠ "") :
    (∃ corrected report, api.resolveCycles config.importPath = .ok (corrected, report) ∧
        ∃ c, planning config api = .ok c ∧ c.corrected = some corrected ∧
          c.cycles = some report) ∨
      ∃ packages, api.resolveCycles config.importPath = .error (.unresolvedCycle packages) ∧
        planning config api = .error (.layout (.unresolvedCycle packages)) := by
  have importable := checkImportPath_of_ne_empty api path
  cases resolved : api.resolveCycles config.importPath with
  | ok answer =>
    exact .inl ⟨answer.1, answer.2, rfl, intact.exists_planning usage importable resolved⟩
  | error e =>
    obtain ⟨packages, rfl⟩ := Api.resolveCycles_eq_error intact.references resolved
    exact .inr ⟨packages, rfl, planning_of_unresolved intact.references importable resolved⟩

/-- What can come of planning, and when. -/
structure Foreseeable (config : Config) (api : Api) : Prop where
  /-- Nothing is reported but a missing import path or a cycle that cannot be resolved. -/
  reasons : ∀ e, planning config api = .error e →
    (∃ a b, e = .layout (.missingImportPath a b)) ∨
      ∃ packages, e = .layout (.unresolvedCycle packages)
  /-- Without an import path, no type may refer to a type of another package. -/
  single_ok_iff : config.importPath = "" →
    ((∃ c, planning config api = .ok c) ↔
      ∀ a b, api.Refers a b → api.packageOf "" a = api.packageOf "" b)
  /-- The first reference of the document that does so is reported. -/
  single_error : config.importPath = "" → ∀ e, planning config api = .error e →
    ∃ a b, api.firstCrossing "" = some (a, b) ∧ e = .layout (.missingImportPath a b)
  /-- Without an import path, nothing moves. -/
  single_unmoved : config.importPath = "" → ∀ c, planning config api = .ok c →
    c.corrected = some api ∧ ∃ report, c.cycles = some report ∧ report.relocations = []
  /-- With an import path, the cycles have to be resolved. -/
  module_ok_iff : config.importPath ≠ "" →
    ((∃ c, planning config api = .ok c) ↔
      ∃ answer, api.resolveCycles config.importPath = .ok answer)
  /-- The cycle that cannot be resolved is reported. -/
  module_error : config.importPath ≠ "" → ∀ e, planning config api = .error e →
    ∃ packages, api.resolveCycles config.importPath = .error (.unresolvedCycle packages) ∧
      e = .layout (.unresolvedCycle packages)

/-- **A valid definition can only fail to be planned for two reasons**, if what is said about usage
is about types and services that are there. -/
theorem planning_of_valid (valid : api.validate = .ok ()) (usage : api.UsageKnown)
    (config : Config) : Foreseeable config api := by
  have intact := Api.intact_of_validate valid
  -- With an import path and without one, either the plan is known or the error is. Each part leaves
  -- one of the two.
  have single : config.importPath = "" → _ := planning_without_importPath intact usage
  have module : config.importPath ≠ "" → _ := planning_with_importPath intact usage
  refine ⟨fun e h => ?_, fun path => ?_, fun path e h => ?_, fun path c h => ?_, fun path => ?_,
    fun path e h => ?_⟩
  · by_cases path : config.importPath = ""
    · rcases single path with ⟨-, c, planned, -⟩ | ⟨a, b, -, failed⟩
      · exact absurd (h.symm.trans planned) (by simp)
      · exact .inl ⟨a, b, Except.error.inj (h.symm.trans failed)⟩
    · rcases module path with ⟨_, _, -, c, planned, -⟩ | ⟨packages, -, failed⟩
      · exact absurd (h.symm.trans planned) (by simp)
      · exact .inr ⟨packages, Except.error.inj (h.symm.trans failed)⟩
  · rw [← Api.firstCrossing_eq_none_iff]
    rcases single path with ⟨inside, c, planned, -⟩ | ⟨a, b, crossing, failed⟩
    · exact ⟨fun _ => inside, fun _ => ⟨c, planned⟩⟩
    · simp [crossing, failed]
  · rcases single path with ⟨-, c, planned, -⟩ | ⟨a, b, crossing, failed⟩
    · exact absurd (h.symm.trans planned) (by simp)
    · exact ⟨a, b, crossing, Except.error.inj (h.symm.trans failed)⟩
  · rcases single path with ⟨-, d, planned, corrected, cycles⟩ | ⟨a, b, -, failed⟩
    · obtain rfl := Except.ok.inj (h.symm.trans planned)
      exact ⟨corrected, _, cycles, rfl⟩
    · exact absurd (h.symm.trans failed) (by simp)
  · rcases module path with ⟨_, _, resolved, c, planned, -⟩ | ⟨packages, stuck, failed⟩
    · exact ⟨fun _ => ⟨_, resolved⟩, fun _ => ⟨c, planned⟩⟩
    · simp [stuck, failed]
  · rcases module path with ⟨_, _, -, c, planned, -⟩ | ⟨packages, stuck, failed⟩
    · exact absurd (h.symm.trans planned) (by simp)
    · exact ⟨packages, stuck, Except.error.inj (h.symm.trans failed)⟩

end Valid

/-- An API with a demoted subpackage, whose service owns a type. -/
def nestedApi : Api :=
  Api.empty (.ofIdentifier "acme")
    |>.addObject "User" (.ofIdentifiers ["users"] none) ["Id"]
    |>.addObject "Id" (.ofIdentifiers ["users"] none) ["Id"]
    |>.addError "NotFound" .root (some "User")
    |>.addService "service_users" (.ofIdentifiers [] (some "users")) [.withBody "create" "User"]
    |>.addSubpackage "users" (.ofIdentifiers [] (some "users")) (some "service_users") ["admin"]
    |>.addSubpackage "admin" (.ofIdentifiers ["users"] (some "admin")) none []
    |>.setRootPackage none ["users"]
    |>.setTypeUsage ["Id"] [("service_", ["Id"]), ("service_users", ["User"])]

theorem planning_of_valid_nestedApi :
    nestedApi.validate = .ok () ∧ nestedApi.UsageKnown ∧ Foreseeable .default nestedApi := by
  have valid : nestedApi.validate = .ok () := by decide +kernel
  have usage : nestedApi.UsageKnown := by decide +kernel
  exact ⟨valid, usage, planning_of_valid valid usage .default⟩

theorem nonempty_planned_nestedApi : Nonempty (Planned .default nestedApi) := by
  have valid : nestedApi.validate = .ok () := by decide +kernel
  have usage : nestedApi.UsageKnown := by decide +kernel
  obtain ⟨c, run, -⟩ : ∃ c, planning .default nestedApi = .ok c ∧ _ :=
    exists_planning_of_inside (Api.intact_of_validate valid) usage rfl rfl
  obtain ⟨r, -⟩ := planning_eq_ok_iff.1 run
  exact ⟨r⟩

end SdkLayout
