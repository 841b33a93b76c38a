import SdkLayout.Proofs.ClientTrees
import SdkLayout.Proofs.Directories
import SdkLayout.Proofs.Phases
import SdkLayout.Proofs.PlacedFiles
import SdkLayout.Proofs.Resolution

/-!
# Where targets come from

But for the artifacts, everything in a plan is somewhere because of a declaration path
(`Target.Comes`). The path is one that the API declares, or what becomes of such a path: types may
move to the shared package of a path, and subpackages in normal form have their files as packages.
What holds of all declared paths, and is not lost on these two ways, holds of the paths that the
targets of a plan come from (`Planned.comes`).
-/

namespace SdkLayout

namespace DeclarationPath

/-- The names in a path: those of its packages, and that of its file. -/
def names (path : DeclarationPath) : List Name :=
  path.packagePath ++ path.file.toList

/-- A path leads through directories to a target. -/
inductive Leads (rootPackage : String) (path : DeclarationPath) : List String → Target → Prop
  | file : Leads rootPackage path path.dirs (path.target rootPackage)
  | inPackage (filename : String) :
    Leads rootPackage path path.dirs (path.targetInPackage rootPackage filename)
  | service : Leads rootPackage path path.dirs (path.serviceTarget rootPackage)
  | client : Leads rootPackage path path.clientDirs path.clientTarget

variable {path : DeclarationPath} {rootPackage : String} {dirs : List String} {t : Target}

theorem names_withFileAsPackage (path : DeclarationPath) :
    path.withFileAsPackage.names = path.names := by
  rw [names, packagePath_withFileAsPackage, file_withFileAsPackage, Option.toList_none,
    List.append_nil, names]

/-- In the shared package of a path there are the names of the path and that of the package. -/
theorem forall_names_shared {P : Name → Prop} (shared : P (.ofIdentifier sharedName))
    (h : ∀ n ∈ path.names, P n) : ∀ n ∈ path.shared.names, P n := by
  unfold DeclarationPath.shared
  split
  · exact h
  · rw [names, packagePath_new, file_new, Option.toList_some]
    intro n hn
    rcases List.mem_append.1 hn with hn | hn
    · rcases List.mem_cons.1 hn with rfl | last
      · exact shared
      · exact h n (List.mem_append_left _ (List.mem_of_getLast? (Option.mem_toList.1 last)))
    · rw [List.mem_singleton.1 hn]
      exact shared

theorem package_inDirs_cases (dirs : List String) (file rootPackage : String) :
    (Target.inDirs dirs file rootPackage).package ∈ rootPackage :: dirs := by
  rw [Target.package_inDirs]
  cases last : dirs.getLast? with
  | none => exact List.mem_cons_self
  | some d => exact List.mem_cons_of_mem _ (List.mem_of_getLast? last)

/-- The directories that lead to a target are named in the path, but for the directory of a client
without a file. -/
theorem Leads.dirs_cases (h : path.Leads rootPackage dirs t) :
    ∀ d ∈ dirs, d = defaultClientDir ∨ ∃ n ∈ path.names, n.segment = d := by
  have packages : ∀ d ∈ path.dirs, ∃ n ∈ path.names, n.segment = d := by
    intro d hd
    obtain ⟨n, hn, rfl⟩ := List.mem_map.1 hd
    exact ⟨n, List.mem_append_left _ hn, rfl⟩
  cases h with
  | file | inPackage | service => exact fun d hd => .inr (packages d hd)
  | client =>
    intro d hd
    rcases List.mem_append.1 hd with hd | hd
    · exact .inr (packages d hd)
    · rw [List.mem_singleton.1 hd]
      -- The directory of a client is the file of the path, if there is one.
      cases file : path.file with
      | none => exact .inl rfl
      | some n => exact .inr ⟨n, List.mem_append_right _ (by rw [file]; simp), rfl⟩

/-- So is the package of a target, if it is not the root package. -/
theorem Leads.package_cases (h : path.Leads rootPackage dirs t) :
    t.package = rootPackage ∨ t.package = defaultClientDir ∨
      ∃ n ∈ path.names, n.segment = t.package := by
  have inner : t.package ∈ rootPackage :: dirs ∨ t.package ∈ defaultClientDir :: dirs := by
    cases h with
    | file | inPackage | service => exact .inl (package_inDirs_cases ..)
    | client => exact .inr (package_inDirs_cases ..)
  rcases inner with inner | inner <;> rcases List.mem_cons.1 inner with same | inner
  · exact .inl same
  · exact .inr (h.dirs_cases _ inner)
  · exact .inr (.inl same)
  · exact .inr (h.dirs_cases _ inner)

end DeclarationPath

/-- A target comes from a path with a property. -/
def Target.Comes (rootPackage : String) (P : DeclarationPath → Prop) (t : Target) : Prop :=
  ∃ path dirs, P path ∧ path.Leads rootPackage dirs t

/-- A property holds of all paths that an API declares. -/
structure Api.ForallPaths (api : Api) (P : DeclarationPath → Prop) : Prop where
  types : ∀ id t, api.types.get? id = some t → P t.path
  errors : ∀ id e, api.errors.get? id = some e → P e.path
  services : ∀ id s, api.services.get? id = some s → P s.path
  subpackages : ∀ id p, api.subpackages.get? id = some p → P p.path
  root : ∀ root, api.rootPackage = some root → P root.path

/-- The paths that an API declares are those of its tables and that of its root package. -/
theorem Api.forallPaths_of_declaredPaths {api : Api} {P : DeclarationPath → Prop}
    (declared : ∀ e ∈ api.declaredPaths, P e.2)
    (root : ∀ root, api.rootPackage = some root → P root.path) : api.ForallPaths P := by
  simp only [declaredPaths, List.forall_mem_append, List.forall_mem_map] at declared
  obtain ⟨⟨⟨types, errors⟩, services⟩, subpackages⟩ := declared
  exact
    { types := fun id t ht => types (id, t) (Table.get?_eq_some_iff.1 ht)
      errors := fun id e he => errors (id, e) (Table.get?_eq_some_iff.1 he)
      services := fun id s hs => services (id, s) (Table.get?_eq_some_iff.1 hs)
      subpackages := fun id p hp => subpackages (id, p) (Table.get?_eq_some_iff.1 hp)
      root }

/-! ### The sections of a plan -/

section Sections

variable {api : Api} {P : DeclarationPath → Prop} (paths : api.ForallPaths P)

include paths

theorem comes_of_mem_placeFiles {includeRequests : Bool} {files : List (FileOf Placed)}
    (h : api.placeFiles includeRequests = .ok files) {f : FileOf Placed} (hf : f ∈ files) :
    f.target.Comes api.rootPackageName P := by
  obtain ⟨targets, -, rfl⟩ := Api.placeFiles_eq_ok h
  obtain ⟨d, hd⟩ := List.exists_mem_of_ne_nil _ (contents_ne_nil hf)
  -- The path is that of the type, or that of the service the type or the request belongs to.
  cases d with
  | type id =>
    obtain ⟨t, ht, target⟩ := Api.targets_of_mem_placeFiles h hf hd
    generalize f.target = place at target
    cases target with
    | file => exact ⟨_, _, paths.types id t ht, .file⟩
    | package => exact ⟨_, _, paths.types id t ht, .inPackage _⟩
    | service hs _ => exact ⟨_, _, paths.services _ _ hs, .service⟩
  | request service endpoint =>
    obtain ⟨s, hs, target⟩ := Api.service_of_mem_placeFiles h hf hd
    rw [target]
    exact ⟨_, _, paths.services service s hs, .file⟩

theorem comes_of_mem_placeErrors {f : FileOf ErrorId} (h : f ∈ api.placeErrors) :
    f.target.Comes api.rootPackageName P := by
  obtain ⟨a, ha, target⟩ := List.mem_map.1 (mem_gatherFiles.1 h).1
  obtain ⟨e, he, rfl⟩ := List.mem_map.1 ha
  rw [← target]
  exact ⟨_, _, paths.errors e.1 e.2 (Table.get?_eq_some_iff.2 he), .inPackage _⟩

theorem comes_of_mem_placeDocs {d : DocFile} (h : d ∈ api.placeDocs) :
    d.target.Comes api.rootPackageName P := by
  rcases List.mem_append.1 h with h | h
  · obtain ⟨root, hroot, rfl⟩ := List.mem_map.1 h
    have there := Option.mem_toList.1 (List.mem_filter.1 hroot).1
    exact ⟨_, _, paths.root root there, .inPackage _⟩
  · obtain ⟨e, he, rfl⟩ := List.mem_map.1 h
    have there := Table.get?_eq_some_iff.2 (List.mem_filter.1 he).1
    exact ⟨_, _, paths.subpackages e.1 e.2 there, .inPackage _⟩

/-- In the normal form of an API some paths have their files as packages. -/
theorem forallPaths_apply {tree : NormalTree} (normal : NormalTree.ofApi api = .ok tree)
    (demoted : ∀ p, P p → P p.withFileAsPackage) : (tree.apply api).ForallPaths P where
  types := paths.types
  errors := paths.errors
  root := paths.root
  services := by
    intro id s' hs'
    obtain ⟨s, hs⟩ : ∃ s, api.services.get? id = some s := by
      rw [NormalTree.apply, Table.get?_mapEntries] at hs'
      obtain ⟨s, hs, -⟩ := Option.map_eq_some_iff.1 hs'
      exact ⟨s, hs⟩
    have declared := paths.services id s hs
    rw [NormalTree.get?_services_apply tree hs] at hs'
    obtain rfl := Option.some.inj hs'
    -- A service is demoted with the nested root that owns it.
    by_cases owned : api.OwnedByNestedRoot id
    · rw [NormalTree.get?_servicePaths_of_owned normal hs owned]
      exact demoted _ declared
    · rw [NormalTree.get?_servicePaths_of_not_owned normal owned]
      exact declared
  subpackages := by
    intro id p' hp'
    rw [NormalTree.subpackages_apply normal, Table.get?_mapEntries] at hp'
    obtain ⟨p, hp, rfl⟩ := Option.map_eq_some_iff.1 hp'
    have declared := paths.subpackages id p hp
    by_cases root : p.isNestedRoot = true
    · rw [Subpackage.normalize_of_isNestedRoot root]
      exact demoted _ declared
    · rw [Subpackage.normalize_of_not_isNestedRoot root]
      exact declared

theorem comes_of_mem_placeClients {tree : NormalTree} (normal : NormalTree.ofApi api = .ok tree)
    (demoted : ∀ p, P p → P p.withFileAsPackage) {clients : List Client}
    (h : api.placeClients tree = .ok clients) :
    ∀ c ∈ clients, c.target.Comes api.rootPackageName P := by
  have normalPaths := forallPaths_apply paths normal demoted
  obtain ⟨roots, subs, hroots, hsubs, rfl⟩ := Api.placeClients_eq_ok h
  refine List.forall_mem_append.2 ⟨fun c hc => ?_, ?_⟩
  · rw [Api.rootClients_eq_ok hroots] at hc
    obtain ⟨root, hroot, rfl⟩ := List.mem_map.1 hc
    exact ⟨_, _, paths.root root (Option.mem_toList.1 hroot), .client⟩
  · refine forall_mem_of_forall₂ (fun e c own => ?_) (Api.forall₂_subpackageClients normal hsubs)
    -- A client is where its service is, and only without one where the subpackage is.
    cases owns : e.2.service with
    | some service =>
      obtain ⟨s, hs, target⟩ := own.ofService service owns
      exact target ▸ ⟨_, _, normalPaths.services service s hs, .client⟩
    | none =>
      obtain ⟨q, hq, target⟩ := own.ofSubpackage owns
      exact target ▸ ⟨_, _, normalPaths.subpackages e.1 q hq, .client⟩

/-- Everything that is planned for an API comes from a path, but for the artifacts. -/
theorem comes_of_build {config : Config} {registry : Registry} {tree : NormalTree} {plan : Plan}
    (normal : NormalTree.ofApi api = .ok tree) (demoted : ∀ p, P p → P p.withFileAsPackage)
    (h : Plan.build config api registry tree = .ok plan) :
    ∀ t ∈ plan.files.map FileOf.target ++ plan.errors.map FileOf.target
        ++ plan.docs.map DocFile.target ++ plan.clients.map Client.target,
      t.Comes api.rootPackageName P := by
  obtain ⟨files, errors⟩ := Plan.build_eq_ok h
  obtain ⟨docs, clients, -⟩ := Plan.sections_of_build h
  simp only [List.forall_mem_append, List.forall_mem_map]
  refine ⟨⟨⟨fun f hf => comes_of_mem_placeFiles paths files hf, fun f hf => ?_⟩, fun d hd => ?_⟩, ?_⟩
  -- Errors and clients are planned in some modes only.
  · rw [errors] at hf
    split at hf
    · exact comes_of_mem_placeErrors paths hf
    · exact absurd hf (by simp)
  · exact comes_of_mem_placeDocs paths (docs ▸ hd)
  · split at clients
    · exact comes_of_mem_placeClients paths normal demoted clients
    · rw [← Except.ok.inj clients]
      exact fun c hc => absurd hc (by simp)

end Sections

/-- **Every target of a plan, but for those of artifacts, comes from a path**, with whatever holds
of all paths of the API and is kept when types move and subpackages are demoted. -/
theorem Planned.comes {config : Config} {api : Api} (r : Planned config api)
    {P : DeclarationPath → Prop} (paths : api.ForallPaths P) (shared : ∀ p, P p → P p.shared)
    (demoted : ∀ p, P p → P p.withFileAsPackage) :
    ∀ t ∈ r.plan.files.map FileOf.target ++ r.plan.errors.map FileOf.target
        ++ r.plan.docs.map DocFile.target ++ r.plan.clients.map Client.target,
      t.Comes api.rootPackageName P := by
  obtain ⟨f, moved⟩ := Api.exists_mapPaths_of_resolveCycles r.resolved
  have types := Api.path_of_resolveCycles r.resolved shared paths.types
  -- Only types move.
  have corrected : r.corrected.ForallPaths P := by
    rw [moved] at types ⊢
    exact ⟨types, paths.errors, paths.services, paths.subpackages, paths.root⟩
  have name : r.corrected.rootPackageName = api.rootPackageName := by rw [moved]; rfl
  rw [← name]
  exact comes_of_build corrected r.normal demoted r.placed

end SdkLayout
