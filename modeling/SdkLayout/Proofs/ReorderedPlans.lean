import Mathlib.Data.List.Nodup
import SdkLayout.Proofs.PackageTrees
import SdkLayout.Proofs.Phases
import SdkLayout.Proofs.PlacedOnce
import SdkLayout.Proofs.Reordering

/-!
# Plans do not depend on the order of a definition

Definitions that differ in order alone have the same plan and the same cycle report, or none
(`planning_reordered`). The types and the errors come to placing as lists of assignments in some
order. The order is erased where files are gathered: an identifier is the key of one assignment
only, so that within a file no two types and no two errors compete for a place
(`gatherFiles_append_perm`). Requests may tie with a type, but they stand before the types in both
lists, and their own order is that of the services.

Everything else of a plan looks at what reordering leaves alone, or at the sets of the registry.
-/

namespace SdkLayout

namespace Api.Reordered

variable {a b : Api} (h : a.Reordered b)

include h

/-! ### What is left alone -/

theorem services : a.services = b.services := by
  rw [h.rest]

theorem subpackages : a.subpackages = b.subpackages := by
  rw [h.rest]

theorem rootPackage : a.rootPackage = b.rootPackage := by
  rw [h.rest]

theorem rootPackageName : a.rootPackageName = b.rootPackageName := by
  rw [h.rest]
  rfl

theorem requests : a.requests = b.requests := by
  rw [h.rest]
  rfl

theorem placeDocs : a.placeDocs = b.placeDocs := by
  rw [h.rest]
  rfl

theorem placeClients (tree : NormalTree) : a.placeClients tree = b.placeClients tree :=
  placeClients_congr h.rootPackage h.services h.subpackages tree

theorem placeModule (config : Config) :
    SdkLayout.placeModule config a = SdkLayout.placeModule config b := by
  rw [h.rest]
  rfl

theorem placeArtifacts (config : Config) (registry : Registry) :
    SdkLayout.placeArtifacts config a registry = SdkLayout.placeArtifacts config b registry := by
  rw [h.rest]
  rfl

theorem normalTree : NormalTree.ofApi a = NormalTree.ofApi b :=
  NormalTree.ofApi_congr h.services h.subpackages

/-! ### Types -/

/-- The types, each with something that does not depend on the order of its references, come in
another order. -/
theorem map_entries_perm {β : Type} (f : TypeDeclaration → β)
    (hf : ∀ t u, t.Reordered u → f t = f u) :
    (a.types.entries.map fun e => (e.1, f e.2)).Perm
      (b.types.entries.map fun e => (e.1, f e.2)) := by
  have mem : ∀ (c : Api) (p : TypeId × β), (p ∈ c.types.entries.map fun e => (e.1, f e.2)) ↔
      (c.types.get? p.1).map f = some p.2 := by
    intro c p
    rw [List.mem_map, Option.map_eq_some_iff]
    constructor
    · rintro ⟨e, he, rfl⟩
      exact ⟨e.2, Table.get?_eq_some_iff.2 he, rfl⟩
    · rintro ⟨t, ht, hp⟩
      exact ⟨(p.1, t), Table.get?_eq_some_iff.1 ht, Prod.ext rfl hp⟩
  have nodup : ∀ c : Api, (c.types.entries.map fun e => (e.1, f e.2)).Nodup := by
    intro c
    refine List.Nodup.of_map Prod.fst ?_
    rw [List.map_map]
    exact c.types.nodup
  -- Lists without duplicates that have the same members are the same but for their order.
  refine (List.perm_ext_iff_of_nodup (nodup a) (nodup b)).2 fun p => ?_
  rw [mem, mem, h.map_get? hf]

theorem perTypeTargets : a.perTypeTargets.Perm b.perTypeTargets := by
  rw [Api.perTypeTargets, Api.perTypeTargets, h.rootPackageName]
  exact h.map_entries_perm (fun t => t.path.target b.rootPackageName)
    fun t u same => by rw [same.rest]

theorem packageTarget : a.packageTarget = b.packageTarget := by
  funext id
  cases ht : a.types.get? id with
  | some t =>
    obtain ⟨u, hu, same⟩ := h.exists_get? ht
    rw [packageTarget_of_get? ht, packageTarget_of_get? hu, h.rootPackageName, same.rest]
  | none =>
    have hu : b.types.get? id = none := by
      rw [← Option.map_eq_none_iff, ← h.path_get?, ht, Option.map_none]
    rw [Api.packageTarget, Api.packageTarget, ht, hu]

theorem scopedTargets (usage : List (ServiceId × List TypeId)) :
    a.scopedTargets usage = b.scopedTargets usage := by
  have own : a.scopedTarget = b.scopedTarget := by
    funext target id
    rw [scopedTarget, scopedTarget, h.packageTarget]
  induction usage with
  | nil => rfl
  | cons e rest ih =>
    rw [Api.scopedTargets, Api.scopedTargets, own, h.services, h.rootPackageName, ih]

/-- Only the pass over all types depends on their order. -/
theorem serviceScopedTargets {u : TypeUsage} {out : List (TypeId × Target)}
    (ht : a.serviceScopedTargets u = .ok out) :
    ∃ listed remaining remaining', out = listed ++ remaining ∧
      b.serviceScopedTargets u = .ok (listed ++ remaining') ∧
      (remaining.map Prod.fst).Nodup ∧ remaining.Perm remaining' := by
  obtain ⟨unscoped, single, remaining, hu, hs, hr, rfl⟩ := passes_of_serviceScopedTargets ht
  rw [targetsOf_packageTarget_keys] at hr
  obtain rfl := Except.ok.inj hr
  -- The first two passes go by the lists of the usage, which are the same.
  refine ⟨unscoped ++ single, _,
    b.types.entries.map fun e => (e.1, e.2.path.packageFile b.rootPackageName), rfl, ?_, ?_, ?_⟩
  · rw [h.packageTarget] at hu
    rw [h.scopedTargets] at hs
    rw [Api.serviceScopedTargets, hu, hs, targetsOf_packageTarget_keys]
  · rw [List.map_map]
    exact a.types.nodup
  · rw [h.rootPackageName]
    exact h.map_entries_perm (fun t => t.path.packageFile b.rootPackageName)
      fun t u same => by rw [same.rest]

/-- Types have the same targets, listed in another order. -/
theorem typeTargets {out : List (TypeId × Target)} (ht : a.typeTargets = .ok out) :
    ∃ out', b.typeTargets = .ok out' ∧ out.Perm out' := by
  -- Both are placed by the same strategy.
  have usage : a.typeUsage = b.typeUsage := by rw [h.rest]
  rw [Api.typeTargets, usage] at ht
  rw [Api.typeTargets]
  split at ht
  · exact ⟨_, rfl, Except.ok.inj ht ▸ h.perTypeTargets⟩
  · split at ht
    · exact absurd ht (by simp)
    next targets hscoped =>
    obtain ⟨listed, remaining, remaining', rfl, hscoped', once, perm⟩ :=
      h.serviceScopedTargets hscoped
    obtain rfl := Except.ok.inj ht
    refine ⟨_, by rw [hscoped'], ?_⟩
    -- What was listed before is the same, and leaves out the same of the rest.
    rw [distinctBy_append, distinctBy_append, distinctBy_of_nodup once,
      distinctBy_of_nodup ((perm.map _).nodup_iff.1 once)]
    exact (perm.filter _).append_left _

/-! ### Sections of the plan -/

theorem placeFiles {includeRequests : Bool} {files : List (FileOf Placed)}
    (placed : a.placeFiles includeRequests = .ok files) :
    b.placeFiles includeRequests = .ok files := by
  obtain ⟨targets, ht, rfl⟩ := placeFiles_eq_ok placed
  obtain ⟨targets', ht', perm⟩ := h.typeTargets ht
  rw [Api.placeFiles, ht', assignments, h.requests]
  refine congrArg Except.ok (gatherFiles_append_perm Placed.le_iff _ (perm.map _) ?_).symm
  -- The key of a type is its identifier, and every type has one target.
  rw [List.map_map]
  have once : (targets.map Prod.fst).Nodup := (typeTargets_keys ht).nodup_iff.2 a.types.nodup_keys
  have keys : (fun d : Target × Placed => d.2.key) ∘ (fun t : TypeId × Target => (t.2, .type t.1)) =
      Id.text ∘ Prod.fst := rfl
  rw [keys, ← List.map_map]
  exact List.Nodup.map (fun _ _ => Id.ext_iff.2) once

theorem placeErrors : a.placeErrors = b.placeErrors := by
  rw [Api.placeErrors, Api.placeErrors, h.rootPackageName]
  refine gatherFiles_append_perm Id.le_iff [] (h.errors.map _) ?_
  rw [List.map_map]
  have keys : (fun d : Target × ErrorId => d.2.text) ∘ (fun e : ErrorId × ErrorDeclaration =>
      (e.2.path.targetInPackage b.rootPackageName errorsFilename, e.1)) =
      Id.text ∘ Prod.fst := rfl
  rw [keys, ← List.map_map]
  exact List.Nodup.map (fun _ _ => Id.ext_iff.2) a.errors.nodup

theorem registry : Registry.ofApi a = Registry.ofApi b := by
  have types := (h.map_entries_perm (fun t => t.name.exported) fun t u same => by
    rw [same.rest]).map Prod.snd
  rw [List.map_map, List.map_map] at types
  have errors := h.errors.map fun e => e.2.name.exported
  have globals := h.globals.map fun v => v.name.exported
  have names : ∀ s, s ∈ Registry.exportedNames a ↔ s ∈ Registry.exportedNames b := by
    simp only [Registry.exportedNames, Table.values, List.map_map]
    exact fun s => ((types.append errors).append globals).mem_iff
  rw [Registry.ofApi, Registry.ofApi, Registry.ofLists, Registry.ofLists, sortedStrings_congr names,
    Registry.servicePackages, Registry.servicePackages, h.services]

theorem buildPlan {config : Config} {registry : Registry} {tree : NormalTree} {plan : Plan}
    (built : Plan.build config a registry tree = .ok plan) :
    Plan.build config b registry tree = .ok plan := by
  have name : a.name = b.name := by rw [h.rest]
  have strategy : Strategy.ofApi a = Strategy.ofApi b := by
    rw [h.rest]
    rfl
  unfold Plan.build at built
  split at built
  · exact absurd built (by simp)
  next files placed =>
  rw [Plan.build, h.placeFiles placed]
  simpa only [h.placeClients, h.placeErrors, h.placeDocs, h.placeArtifacts, h.placeModule,
    h.rootPackageName, name, strategy] using built

end Api.Reordered

/-! ### Planning -/

theorem checkImportPath_reordered {a b : Api} (h : a.Reordered b) {importPath : String}
    (importable : (ReferenceGraph.ofApi a importPath).checkImportPath = .ok ()) :
    (ReferenceGraph.ofApi b importPath).checkImportPath = .ok () := by
  rw [ReferenceGraph.checkImportPath_eq_ok_iff] at importable ⊢
  intro none
  refine List.eq_nil_iff_forall_not_mem.2 fun r hr => ?_
  rw [← (ReferenceGraph.alike_of_reordered h importPath).mem_crossReferences, importable none] at hr
  exact absurd hr (by simp)

/-- A plan of a definition is the plan of the definition in any other order. -/
theorem planning_of_reordered {config : Config} {a b : Api} {c : Context} (h : a.Reordered b)
    (ok : planning config a = .ok c) :
    ∃ c', planning config b = .ok c' ∧ c'.plan = c.plan ∧ c'.cycles = c.cycles := by
  obtain ⟨r, rfl⟩ := planning_eq_ok_iff.1 ok
  obtain ⟨known, graph⟩ := ReferenceGraph.build_eq_ok_iff.1 r.built
  obtain ⟨corrected, resolved, same⟩ := Api.resolveCycles_reordered h r.resolved
  -- Only the resolution is found anew. All later phases have the same results for both.
  let r' : Planned config b :=
    { graph := _
      built := ReferenceGraph.build_of_known (h.referencesKnown known) _
      importable := checkImportPath_reordered h (graph ▸ r.importable)
      corrected
      report := r.report
      resolved
      tree := r.tree
      normal := same.normalTree.symm.trans r.normal
      plan := r.plan
      placed := same.registry ▸ same.buildPlan r.placed }
  exact ⟨r'.context, planning_eq_ok_iff.2 ⟨r', rfl⟩, rfl, rfl⟩

/-- **Plans do not depend on the order of a definition.** Two definitions that differ in the order
of types, errors, variables and references alone can both not be planned, or they have the same plan
and the same cycle report. -/
theorem planning_reordered {a b : Api} (h : a.Reordered b) (config : Config) :
    (∃ e e', planning config a = .error e ∧ planning config b = .error e') ∨
      ∃ c c' plan report, planning config a = .ok c ∧ planning config b = .ok c' ∧
        c.plan = some plan ∧ c'.plan = some plan ∧
        c.cycles = some report ∧ c'.cycles = some report := by
  cases ha : planning config a with
  | ok c =>
    obtain ⟨c', hb, plan, cycles⟩ := planning_of_reordered h ha
    obtain ⟨r, rfl⟩ := planning_eq_ok_iff.1 ha
    exact .inr ⟨_, c', r.plan, r.report, rfl, hb, rfl, plan, rfl, cycles⟩
  | error e =>
    cases hb : planning config b with
    | error e' => exact .inl ⟨e, e', rfl, rfl⟩
    | ok c' =>
      -- The order may be changed back.
      obtain ⟨c, hc, -, -⟩ := planning_of_reordered h.symm hb
      exact absurd (ha.symm.trans hc) (by simp)

/-- An API in which two packages import each other. -/
def forwardApi : Api :=
  Api.empty (.ofIdentifier "acme")
    |>.addObject "A" (.ofIdentifiers ["x"] none) ["B", "C"]
    |>.addObject "B" (.ofIdentifiers ["y"] none) ["A"]
    |>.addObject "C" (.ofIdentifiers ["y"] none) []
    |>.addError "E" .root none
    |>.addError "F" .root (some "C")
    |>.addVariable "limit"
    |>.addVariable "offset"

/-- The same API in another order. -/
def backwardApi : Api :=
  Api.empty (.ofIdentifier "acme")
    |>.addObject "C" (.ofIdentifiers ["y"] none) []
    |>.addObject "B" (.ofIdentifiers ["y"] none) ["A"]
    |>.addObject "A" (.ofIdentifiers ["x"] none) ["C", "B"]
    |>.addError "F" .root (some "C")
    |>.addError "E" .root none
    |>.addVariable "offset"
    |>.addVariable "limit"

theorem planning_reordered_backwardApi :
    forwardApi.Reordered backwardApi ∧
      ((∃ e e', planning { Config.default with importPath := "m" } forwardApi = .error e ∧
          planning { Config.default with importPath := "m" } backwardApi = .error e') ∨
        ∃ c c' plan report,
          planning { Config.default with importPath := "m" } forwardApi = .ok c ∧
          planning { Config.default with importPath := "m" } backwardApi = .ok c' ∧
          c.plan = some plan ∧ c'.plan = some plan ∧
          c.cycles = some report ∧ c'.cycles = some report) := by
  have reordered : forwardApi.Reordered backwardApi := by decide +kernel
  exact ⟨reordered, planning_reordered reordered _⟩

end SdkLayout
