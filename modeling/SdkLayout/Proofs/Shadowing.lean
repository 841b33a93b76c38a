import Mathlib
import SdkLayout.Proofs.ErrorImports
import SdkLayout.Proofs.Fallbacks

/-!
# Helpers and the declarations beside them

A singleton of the root package gives way to declarations: if one of its names is taken, it goes to
the core package. The registry knows every exported name of the API, but not where the declaration
is, and the core package is not asked whether the API declares something there.

So a singleton that stays in the root package never shadows a declaration of the same directory,
while one that is in the core package shadows what is declared in the directory of the core package
under one of its names (`planning_shadows_iff`). That can happen (`coreApi_shadowed`).
-/

namespace SdkLayout

/-! ### Where singletons go -/

section Artifacts

variable {config : Config} {api : Api} {registry : Registry} {s : Singleton}

/-- The artifact of the kind of a singleton is that singleton at its place. There are none without
clients. -/
theorem exists_place_of_mem_placeArtifacts (hs : s ∈ singletons) {a : Artifact}
    (ha : a ∈ placeArtifacts config api registry) (kind : a.kind = s.kind) :
    config.mode.placesClient = true ∧
      ∃ shadowed, a = s.place api.rootPackageName registry shadowed := by
  rcases mem_placeArtifacts_cases ha with ⟨client, s', hs', shadowed, rfl⟩ | fixed
  · rw [Singleton.kind_place] at kind
    -- No two singletons are of the same kind.
    have once : (singletons.map Singleton.kind).Nodup := by decide
    obtain rfl := List.inj_on_of_nodup_map once hs' hs kind
    exact ⟨client, shadowed, rfl⟩
  · have other : ∀ s ∈ singletons, ∀ a ∈ fixedArtifacts, a.kind ≠ s.kind := by decide
    exact absurd kind (other s hs a fixed)

theorem Singleton.directory_place (hs : s ∈ singletons) {rootPackage : String} {shadowed : Bool}
    (core : (s.place rootPackage registry shadowed).useCore = true) :
    (s.place rootPackage registry shadowed).target.directory = corePackage := by
  have all : ∀ s ∈ singletons,
      (Artifact.inCore s.kind s.coreFilename).target.directory = corePackage := by decide +kernel
  rw [Singleton.useCore_place, ← List.any_eq_true] at core
  rw [Singleton.place, if_pos core]
  exact all s hs

end Artifacts

/-! ### What is declared beside them -/

namespace Plan

/-- A directory of a plan has a type or an error that is exported under a name. -/
def DeclaresIn (api : Api) (p : Plan) (d name : String) : Prop :=
  (∃ id t, api.types.get? id = some t ∧ t.name.exported = name ∧ p.Holds d id) ∨
    ∃ id e, api.errors.get? id = some e ∧ e.name.exported = name ∧ p.HoldsError d id

/-- A singleton declares a name that is also that of a declaration in its directory. -/
def Shadows (api : Api) (p : Plan) (s : Singleton) (a : Artifact) : Prop :=
  ∃ name ∈ s.names, p.DeclaresIn api a.target.directory name

/-- The registry has the names of all declarations, in whatever directory they are. -/
theorem DeclaresIn.hasName {api : Api} {p : Plan} {d name : String}
    (h : p.DeclaresIn api d name) : (Registry.ofApi api).hasName name = true := by
  rw [Registry.hasName_ofApi, Registry.exportedNames, List.append_assoc]
  rcases h with ⟨id, t, ht, rfl, -⟩ | ⟨id, e, he, rfl, -⟩
  · refine List.mem_append_left _ (List.mem_map_of_mem ?_)
    exact List.mem_map_of_mem (Table.get?_eq_some_iff.1 ht)
  · refine List.mem_append_right _ (List.mem_append_left _ (List.mem_map_of_mem ?_))
    exact List.mem_map_of_mem (Table.get?_eq_some_iff.1 he)

/-- Moves change no names. -/
theorem declaresIn_mapPaths (api : Api) (f : TypeId → DeclarationPath → DeclarationPath) (p : Plan)
    (d name : String) : p.DeclaresIn (api.mapPaths f) d name ↔ p.DeclaresIn api d name := by
  refine or_congr (exists_congr fun id => ?_) Iff.rfl
  rw [Api.get?_mapPaths]
  cases api.types.get? id with
  | none => simp
  | some t => simp

end Plan

/-! ### Warnings -/

/-- The only way to join directories to a name without slashes is to have that one directory. -/
theorem eq_singleton_of_intercalate_slash {ds : List String} {name : String}
    (h : "/".intercalate ds = name) (ne : name ≠ "") (slash : '/' ∉ name.toList) : ds = [name] := by
  match ds with
  | [] => exact absurd (String.intercalate_nil.symm.trans h).symm ne
  | [d] => rw [← h, String.intercalate_singleton]
  | d :: e :: rest =>
    rw [← h, String.intercalate_cons_cons, String.toList_append, String.toList_append] at slash
    exact absurd slash (by simp)

/-- In the client mode there is a warning if something is declared in the core package. -/
theorem Lint.exists_warning {config : Config} {api : Api}
    (client : config.mode.placesClient = true)
    (h : ∃ e ∈ api.declaredPaths, e.2.dirs.head? = some corePackage) :
    ∃ location, warning ("package '" ++ corePackage ++ "' is also written by the planner") location
      ∈ standard.flatMap fun l => l.check api config := by
  let reserved := (topPackages api).filter fun e => (reservedPackages config).contains e.2
  have there : corePackage ∈ reserved.map Prod.snd := by
    obtain ⟨e, he, top⟩ := h
    refine List.mem_map.2 ⟨(e.1, corePackage), List.mem_filter.2 ⟨?_, ?_⟩, rfl⟩
    · exact List.mem_filterMap.2 ⟨e, he, by rw [top, Option.map_some]⟩
    · rw [reservedPackages, if_pos client]
      exact List.contains_iff_mem.2 (List.mem_cons_of_mem _ (List.mem_singleton_self corePackage))
  -- Of several declarations the first one is reported.
  obtain ⟨e, he, core⟩ := List.mem_map.1 ((map_distinctBy_mem Prod.snd corePackage _).2 there)
  refine ⟨e.1, List.mem_flatMap.2 ⟨reservedPackage, by simp [standard], ?_⟩⟩
  exact List.mem_map.2 ⟨e, he, by rw [core]⟩

/-- Types do not move to the core package. -/
theorem Api.declaredPaths_of_resolveCycles {api corrected : Api} {importPath : String}
    {report : CycleReport} (h : api.resolveCycles importPath = .ok (corrected, report))
    {id : TypeId} {t : TypeDeclaration} (ht : corrected.types.get? id = some t)
    (top : t.path.dirs.head? = some corePackage) :
    ∃ e ∈ api.declaredPaths, e.2.dirs.head? = some corePackage := by
  refine path_of_resolveCycles h (P := fun p => p.dirs.head? = some corePackage →
    ∃ e ∈ api.declaredPaths, e.2.dirs.head? = some corePackage) ?_ ?_ id t ht top
  · intro p hp top
    unfold DeclarationPath.shared at top
    split at top
    -- A path that is shared already stays, and any other one moves below the shared directory.
    · exact hp top
    · have elsewhere : (Name.ofIdentifier sharedName).segment ≠ corePackage := by decide +kernel
      exact absurd (Option.some.inj top) elsewhere
  · intro id t ht top
    refine ⟨(id.text, t.path), ?_, top⟩
    simp only [declaredPaths, List.append_assoc]
    exact List.mem_append_left _ (List.mem_map_of_mem
      (f := fun e : TypeId × TypeDeclaration => (e.1.text, e.2.path)) (Table.get?_eq_some_iff.1 ht))

/-- What is in the directory of the core package was declared there. -/
theorem Planned.exists_declaredPath {config : Config} {api : Api} (r : Planned config api)
    (client : config.mode.placesClient = true) (proper : api.ProperPaths) {name : String}
    (declared : r.plan.DeclaresIn api corePackage name) :
    ∃ e ∈ api.declaredPaths, e.2.dirs.head? = some corePackage := by
  have single : ∀ {ds : List String}, corePackage = "/".intercalate ds →
      ds.head? = some corePackage := by
    intro ds h
    rw [eq_singleton_of_intercalate_slash h.symm (by decide) (by decide), List.head?_cons]
  obtain ⟨f, moved⟩ := Api.exists_mapPaths_of_resolveCycles r.resolved
  -- A type may have moved, but not to the core package. An error does not move.
  rcases declared with ⟨id, t, ht, -, holds⟩ | ⟨id, e, he, -, holds⟩
  · obtain ⟨t', ht'⟩ : ∃ t', r.corrected.types.get? id = some t' :=
      ⟨_, by rw [moved, Api.get?_mapPaths, ht, Option.map_some]⟩
    have there := (Plan.holds_iff r.placed (proper.resolveCycles r.resolved) ht').1 holds
    exact Api.declaredPaths_of_resolveCycles r.resolved ht' (single there)
  · have there := (Plan.holdsError_iff r.placed client (r.errors_corrected ▸ he)).1 holds
    refine ⟨(id.text, e.path), ?_, single there⟩
    simp only [Api.declaredPaths, List.append_assoc]
    exact List.mem_append_right _ (List.mem_append_left _ (List.mem_map_of_mem
      (f := fun e : ErrorId × ErrorDeclaration => (e.1.text, e.2.path))
      (Table.get?_eq_some_iff.1 he)))

/-- **When a singleton shadows a declaration**: if and only if the directory of the core package
itself has a declaration of one of its names. In the root package it never does; and if it does,
and paths are proper, there is a warning that the API declares something in the core package. -/
theorem planning_shadows_iff {config : Config} {api : Api} {c : Context}
    (h : planning config api = .ok c) :
    ∃ p, c.plan = some p ∧ ∀ s ∈ singletons, ∀ a ∈ p.artifacts, a.kind = s.kind →
      (p.Shadows api s a ↔ ∃ name ∈ s.names, p.DeclaresIn api corePackage name) ∧
      (a.useCore = false → ¬ p.Shadows api s a) ∧
      (api.ProperPaths → p.Shadows api s a → ∃ location,
        Lint.warning ("package '" ++ corePackage ++ "' is also written by the planner") location ∈
          c.diagnostics) := by
  obtain ⟨r, rfl⟩ := planning_eq_ok_iff.1 h
  refine ⟨r.plan, rfl, fun s hs a ha kind => ?_⟩
  obtain ⟨-, -, artifacts⟩ := Plan.sections_of_build r.placed
  obtain ⟨client, shadowed, rfl⟩ := exists_place_of_mem_placeArtifacts hs (artifacts ▸ ha) kind
  -- As soon as one of its names is declared somewhere, the singleton is in the core package.
  have core : ∀ d, ∀ name ∈ s.names, r.plan.DeclaresIn api d name →
      (s.place r.corrected.rootPackageName (.ofApi r.corrected) shadowed).useCore = true := by
    intro d name hname declared
    refine (s.useCore_place _ _).2 ⟨name, hname, ?_⟩
    obtain ⟨f, moved⟩ := Api.exists_mapPaths_of_resolveCycles r.resolved
    rw [← Plan.declaresIn_mapPaths api f, ← moved] at declared
    exact declared.hasName
  refine ⟨⟨?_, ?_⟩, ?_, ?_⟩
  · rintro ⟨name, hname, declared⟩
    rw [Singleton.directory_place hs (core _ name hname declared)] at declared
    exact ⟨name, hname, declared⟩
  · rintro ⟨name, hname, declared⟩
    refine ⟨name, hname, ?_⟩
    rwa [Singleton.directory_place hs (core _ name hname declared)]
  · rintro root ⟨name, hname, declared⟩
    rw [core _ name hname declared] at root
    exact absurd root.symm Bool.false_ne_true
  · rintro proper ⟨name, hname, declared⟩
    rw [Singleton.directory_place hs (core _ name hname declared)] at declared
    obtain ⟨location, warned⟩ :=
      Lint.exists_warning client (r.exists_declaredPath client proper declared)
    refine ⟨location, ?_⟩
    rw [Planned.context]
    simp only [List.mem_append]
    exact .inl (.inl (.inl warned))

/-- An API that declares a type of its own in a package `core`, under the name of a helper. -/
def coreApi : Api :=
  Api.empty (.ofIdentifier "acme")
    |>.addObject "Environments" (.ofIdentifiers ["core"] none) []
    |>.setEnvironments ["Production"]

theorem exists_planning_coreApi :
    ∃ c p, planning .default coreApi = .ok c ∧ c.plan = some p ∧
      placeEnvironments coreApi.rootPackageName (.ofApi coreApi) ∈ p.artifacts ∧
      p.DeclaresIn coreApi corePackage "Environments" := by
  have valid : coreApi.validate = .ok () := by decide +kernel
  have usage : coreApi.UsageKnown := by decide +kernel
  have proper : coreApi.ProperPaths := by decide +kernel
  obtain ⟨c, p, tree, ok, plan, placed⟩ : ∃ c p tree, planning .default coreApi = .ok c ∧
      c.plan = some p ∧ Plan.build .default coreApi (.ofApi coreApi) tree = .ok p :=
    exists_plan_of_inside (Api.intact_of_validate valid) usage rfl
  obtain ⟨-, -, artifacts⟩ := Plan.sections_of_build placed
  refine ⟨c, p, ok, plan, ?_, .inl ⟨⟨"Environments"⟩, _, rfl, by decide +kernel, ?_⟩⟩
  · rw [artifacts, placeArtifacts, List.mem_mergeSort]
    simp [clientArtifacts, coreApi, Api.setEnvironments, Config.default, Mode.placesClient]
  · rw [Plan.holds_iff placed proper rfl]
    decide +kernel

/-- A singleton can shadow a declaration of the core package. -/
theorem coreApi_shadowed :
    ∃ c p, planning .default coreApi = .ok c ∧ c.plan = some p ∧
      ∃ a ∈ p.artifacts, a.kind = .environments ∧ p.Shadows coreApi environmentsSingleton a := by
  obtain ⟨c, p, ok, plan, there, declared⟩ := exists_planning_coreApi
  refine ⟨c, p, ok, plan, _, there, Singleton.kind_place .., "Environments", by decide, ?_⟩
  have core : (placeEnvironments coreApi.rootPackageName (.ofApi coreApi)).useCore = true :=
    (Singleton.useCore_place ..).2 ⟨"Environments", by decide, declared.hasName⟩
  rwa [placeEnvironments, Singleton.directory_place (by simp [singletons]) core]

theorem planning_shadows_iff_coreApi :
    ∃ c, planning .default coreApi = .ok c ∧
      ∃ p, c.plan = some p ∧ ∀ s ∈ singletons, ∀ a ∈ p.artifacts, a.kind = s.kind →
        (p.Shadows coreApi s a ↔ ∃ name ∈ s.names, p.DeclaresIn coreApi corePackage name) ∧
        (a.useCore = false → ¬ p.Shadows coreApi s a) ∧
        (coreApi.ProperPaths → p.Shadows coreApi s a → ∃ location,
          Lint.warning ("package '" ++ corePackage ++ "' is also written by the planner")
            location ∈ c.diagnostics) := by
  obtain ⟨c, -, ok, -⟩ := exists_planning_coreApi
  exact ⟨c, ok, planning_shadows_iff ok⟩

end SdkLayout
