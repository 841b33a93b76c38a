import Mathlib.Data.List.Nodup
import SdkLayout.Proofs.AcyclicImports
import SdkLayout.Proofs.PlanningFailures

/-!
# Which files of a plan have a name of their own

The sections of a plan come to their file names separately, and nothing compares them in the end.
What keeps them apart is how the names are made (`Plan.Apart`). Declarations have one file per name
and directory, which the file name tells apart as long as names have no slashes in them
(`Api.SlashFree`). Error files, documentation files and clients have one base name each, and
artifacts have their places (`artifactPlaces`). So these never meet, and a file with declarations
meets one of them only if a type or a service is named like it (`sectionBasenames`).

There is no more to it. Packages that share a directory have a documentation file each, and nothing
keeps a declaration from taking a fixed name. A plan of a valid API can have two files of one name
(`planning_repeats_filenames_clashingApi`).
-/

namespace SdkLayout

/-! ### Lists of targets -/

section Lists

variable {l l' : List Target}

theorem nodup_filenames_of_located (rootPackage : String) (once : l.Nodup)
    (located : ∀ t ∈ l, t.Located rootPackage) : (l.map Target.filename).Nodup :=
  List.Nodup.map_on (fun t ht t' ht' => (located t ht).eq_of_filename (located t' ht')) once

/-- Targets in different directories have different file names. -/
theorem nodup_filenames_of_directories (h : (l.map Target.directory).Nodup) :
    (l.map Target.filename).Nodup := by
  rw [List.nodup_iff_pairwise_ne, List.pairwise_map] at h ⊢
  exact h.imp fun hne same => hne (Target.directory_congr same)

theorem nodup_filenames_append (hl : (l.map Target.filename).Nodup)
    (hl' : (l'.map Target.filename).Nodup)
    (apart : ∀ t ∈ l, ∀ t' ∈ l', t.filename ≠ t'.filename) :
    ((l ++ l').map Target.filename).Nodup := by
  rw [List.map_append, List.nodup_append]
  refine ⟨hl, hl', fun name hname name' hname' => ?_⟩
  obtain ⟨t, ht, rfl⟩ := List.mem_map.1 hname
  obtain ⟨t', ht', rfl⟩ := List.mem_map.1 hname'
  exact apart t ht t' ht'

end Lists

/-! ### Artifacts -/

/-- Every place that an artifact can have. -/
def artifactPlaces : List (ArtifactKind × String) :=
  [(.clientOptionDefinition, "core/client_option.go"),
    (.clientOptions, "core/client_options.go"), (.clientOptions, "client/options.go"),
    (.clientTest, "client/client_test.go"),
    (.core, "core/core.go"), (.coreTest, "core/core_test.go"),
    (.environments, "core/environments.go"), (.environments, "_environments.go"),
    (.environments, "environments.go"),
    (.optional, "core/optional.go"),
    (.optionalHelpers, "core/_optional.go"), (.optionalHelpers, "_optional.go"),
    (.optionalHelpers, "optional.go"),
    (.optionalTest, "core/optional_test.go"),
    (.pointerHelpers, "core/pointer.go"), (.pointerHelpers, "_pointer.go"),
    (.pointerHelpers, "pointer.go"),
    (.stream, "core/stream.go"), (.stringer, "core/stringer.go")]

/-- The singletons of the root package. -/
def singletons : List Singleton :=
  [environmentsSingleton, optionalSingleton, pointerSingleton]

/-- The artifacts that do not depend on the registry, and the client options at both places. -/
def fixedArtifacts : List Artifact :=
  [placeClientOptionDefinition, .inCore .clientOptions "client_options.go",
    .inClient .clientOptions "options.go", .inClient .clientTest "client_test.go",
    .inCore .core "core.go", .inCore .coreTest "core_test.go", .inCore .optional "optional.go",
    .inCore .optionalTest "optional_test.go", .inCore .stream "stream.go",
    .inCore .stringer "stringer.go"]

/-- No two kinds of artifacts can have the same place. -/
theorem nodup_artifactPlaces : (artifactPlaces.map Prod.snd).Nodup := by decide +kernel

section Artifacts

variable {config : Config} {api : Api} {registry : Registry}

/-- The place of an artifact. -/
def Artifact.place (a : Artifact) : ArtifactKind × String :=
  (a.kind, a.target.filename)

/-- A singleton of the root package has one of three places. -/
theorem Singleton.place_cases (s : Singleton) (rootPackage : String) (registry : Registry)
    (shadowed : Bool) :
    (s.place rootPackage registry shadowed).place ∈
      [(s.kind, corePackage ++ "/" ++ s.coreFilename), (s.kind, "_" ++ s.filename),
        (s.kind, s.filename)] := by
  unfold Singleton.place
  split
  · exact List.mem_cons_self
  · split
    · exact List.mem_cons_of_mem _ List.mem_cons_self
    · exact List.mem_cons_of_mem _ (List.mem_cons_of_mem _ List.mem_cons_self)

theorem Singleton.kind_place (s : Singleton) (rootPackage : String) (registry : Registry)
    (shadowed : Bool) : (s.place rootPackage registry shadowed).kind = s.kind := by
  unfold Singleton.place
  split
  · rfl
  · split <;> rfl

theorem placeClientOptions_cases (registry : Registry) :
    placeClientOptions registry = .inCore .clientOptions "client_options.go" ∨
      placeClientOptions registry = .inClient .clientOptions "options.go" := by
  unfold placeClientOptions
  split
  · exact .inl rfl
  · exact .inr rfl

/-- An artifact is a singleton of the root package at its place, for which there have to be clients,
or has a place of its own. -/
theorem mem_placeArtifacts_cases {a : Artifact} (h : a ∈ placeArtifacts config api registry) :
    (config.mode.placesClient = true ∧
      ∃ s ∈ singletons, ∃ shadowed, a = s.place api.rootPackageName registry shadowed) ∨
    a ∈ fixedArtifacts := by
  rw [placeArtifacts, List.mem_mergeSort, List.mem_cons, List.mem_ite_nil_right] at h
  simp only [clientArtifacts, List.mem_append, List.mem_ite_nil_right, List.mem_cons,
    List.not_mem_nil, or_false] at h
  -- The artifacts in the order in which they are listed.
  rcases h with rfl | ⟨client, ((((rfl | ⟨-, rfl⟩) | rfl) | ⟨-, rfl | rfl | rfl⟩) |
    (rfl | rfl | rfl | rfl)) | ⟨-, rfl⟩⟩
  · exact .inr (by decide)
  · exact .inr (by decide)
  · exact .inl ⟨client, environmentsSingleton, by simp [singletons], _, rfl⟩
  · rcases placeClientOptions_cases registry with place | place <;> rw [place] <;>
      exact .inr (by decide)
  · exact .inl ⟨client, optionalSingleton, by simp [singletons], _, rfl⟩
  · exact .inr (by decide)
  · exact .inr (by decide)
  · exact .inr (by decide)
  · exact .inr (by decide)
  · exact .inr (by decide)
  · exact .inl ⟨client, pointerSingleton, by simp [singletons], _, rfl⟩
  · exact .inr (by decide)

theorem place_mem_of_placeArtifacts {a : Artifact} (h : a ∈ placeArtifacts config api registry) :
    a.place ∈ artifactPlaces := by
  rcases mem_placeArtifacts_cases h with ⟨-, s, hs, shadowed, rfl⟩ | fixed
  · have all : ∀ s ∈ singletons, ∀ p ∈ [(s.kind, corePackage ++ "/" ++ s.coreFilename),
        (s.kind, "_" ++ s.filename), (s.kind, s.filename)], p ∈ artifactPlaces := by decide
    exact all s hs _ (s.place_cases _ _ _)
  · have all : ∀ a ∈ fixedArtifacts, a.place ∈ artifactPlaces := by decide
    exact all a fixed

/-- There is at most one artifact of each kind. -/
theorem nodup_kind_placeArtifacts (config : Config) (api : Api) (registry : Registry) :
    ((placeArtifacts config api registry).map Artifact.kind).Nodup := by
  have environments : (placeEnvironments api.rootPackageName registry).kind = .environments :=
    Singleton.kind_place ..
  have optional : (placeOptionalHelpers api.rootPackageName registry).kind = .optionalHelpers :=
    Singleton.kind_place ..
  have pointer : (placePointerHelpers api.rootPackageName registry).kind = .pointerHelpers :=
    Singleton.kind_place ..
  have options : (placeClientOptions registry).kind = .clientOptions := by
    rcases placeClientOptions_cases registry with place | place <;> rw [place] <;> rfl
  refine (((List.mergeSort_perm _ _).map _).nodup_iff).2 ?_
  -- Which kinds there are depends on four questions to the configuration and the API.
  cases config.mode.placesClient
  · exact List.nodup_singleton _
  cases env : api.environments.isSome <;> cases null : config.explicitNull <;>
    cases stream : api.hasStreaming <;>
      simp [clientArtifacts, env, null, stream, environments, optional, pointer, options,
        Artifact.inCore, Artifact.inClient, placeClientOptionDefinition]

/-- No two artifacts have the same file name. -/
theorem nodup_filename_placeArtifacts (config : Config) (api : Api) (registry : Registry) :
    ((placeArtifacts config api registry).map fun a => a.target.filename).Nodup := by
  have kinds := nodup_kind_placeArtifacts config api registry
  -- The place tells the kind, and there is one artifact of a kind.
  refine List.Nodup.map_on (fun a ha b hb same => ?_) (kinds.of_map _)
  have place : a.place = b.place := List.inj_on_of_nodup_map nodup_artifactPlaces
    (place_mem_of_placeArtifacts ha) (place_mem_of_placeArtifacts hb) same
  exact List.inj_on_of_nodup_map kinds ha hb (congrArg Prod.fst place)

end Artifacts

/-! ### Fixed names -/

/-- The base names of artifacts. -/
def artifactBasenames : List String :=
  ["client_option.go", "client_options.go", "options.go", "client_test.go", "core.go",
    "core_test.go", "environments.go", "_environments.go", "optional.go", "_optional.go",
    "optional_test.go", "pointer.go", "_pointer.go", "stream.go", "stringer.go"]

/-- The base names of the sections whose files are not named by the API: errors, documentation,
clients, artifacts. -/
def sectionBasenames : List (List String) :=
  [[errorsFilename], [docsFilename], [clientFilename], artifactBasenames]

theorem sectionBasenames_disjoint :
    sectionBasenames.Pairwise fun ns ns' => ∀ n ∈ ns, n ∉ ns' := by decide +kernel

namespace Plan

/-- The targets of the sections with fixed base names, section by section. -/
def fixedSections (plan : Plan) : List (List Target) :=
  [plan.errors.map FileOf.target, plan.docs.map DocFile.target, plan.clients.map Client.target,
    plan.artifacts.map Artifact.target]

/-- The targets of the sections with fixed base names. -/
def fixedTargets (plan : Plan) : List Target :=
  plan.fixedSections.flatten

theorem targets_eq (plan : Plan) :
    plan.targets = plan.files.map FileOf.target ++ plan.fixedTargets := by
  simp [targets, fixedTargets, fixedSections]

end Plan

section Sections

variable {config : Config} {api : Api} {registry : Registry} {tree : NormalTree} {plan : Plan}

theorem basename_of_mem_placeErrors {f : FileOf ErrorId} (h : f ∈ api.placeErrors) :
    f.target.basename = errorsFilename := by
  obtain ⟨a, ha, target⟩ := List.mem_map.1 (mem_gatherFiles.1 h).1
  obtain ⟨e, -, rfl⟩ := List.mem_map.1 ha
  rw [← target]
  exact Target.basename_inDirs _ _ (by decide)

theorem basename_of_mem_placeDocs {d : DocFile} (h : d ∈ api.placeDocs) :
    d.target.basename = docsFilename := by
  rcases List.mem_append.1 h with h | h
  · obtain ⟨p, -, rfl⟩ := List.mem_map.1 h
    exact Target.basename_inDirs _ _ (by decide)
  · obtain ⟨e, -, rfl⟩ := List.mem_map.1 h
    exact Target.basename_inDirs _ _ (by decide)

theorem basename_clientTarget (path : DeclarationPath) :
    path.clientTarget.basename = clientFilename :=
  Target.basename_inDirs _ _ (by decide)

theorem basename_of_mem_placeArtifacts {a : Artifact} (h : a ∈ placeArtifacts config api registry) :
    a.target.basename ∈ artifactBasenames := by
  have all : ∀ p ∈ artifactPlaces,
      String.ofList (Target.afterLastSlash p.2.toList) ∈ artifactBasenames := by decide +kernel
  rw [Target.basename]
  exact all a.place (place_mem_of_placeArtifacts h)

/-- Every section keeps to its base names. -/
def Named (sections : List (List Target)) (names : List (List String)) : Prop :=
  List.Forall₂ (fun targets names => ∀ t ∈ targets, t.basename ∈ names) sections names

theorem Plan.named_fixedSections (h : Plan.build config api registry tree = .ok plan) :
    Named plan.fixedSections sectionBasenames := by
  obtain ⟨-, errors⟩ := Plan.build_eq_ok h
  obtain ⟨docs, clients, artifacts⟩ := Plan.sections_of_build h
  -- The sections are the errors, the documents, the clients and the artifacts, in this order.
  refine .cons ?_ (.cons ?_ (.cons ?_ (.cons ?_ .nil)))
  · intro t ht
    obtain ⟨f, hf, rfl⟩ := List.mem_map.1 ht
    rw [errors, List.mem_ite_nil_right] at hf
    exact List.mem_singleton.2 (basename_of_mem_placeErrors hf.2)
  · intro t ht
    obtain ⟨d, hd, rfl⟩ := List.mem_map.1 ht
    exact List.mem_singleton.2 (basename_of_mem_placeDocs (docs ▸ hd))
  · intro t ht
    obtain ⟨c, hc, rfl⟩ := List.mem_map.1 ht
    obtain ⟨path, place⟩ : ∃ path : DeclarationPath, c.target = path.clientTarget := by
      -- A plan without clients has none to name.
      split at clients
      · exact Api.clientTarget_of_mem_placeClients clients c hc
      · rw [← Except.ok.inj clients] at hc
        exact absurd hc (by simp)
    rw [place, basename_clientTarget]
    exact List.mem_singleton_self _
  · intro t ht
    obtain ⟨a, ha, rfl⟩ := List.mem_map.1 ht
    exact basename_of_mem_placeArtifacts (artifacts ▸ ha)

theorem Named.exists_of_mem {sections : List (List Target)} {names : List (List String)}
    (h : Named sections names) :
    ∀ l ∈ sections, ∃ ns ∈ names, ∀ t ∈ l, t.basename ∈ ns := by
  induction h with
  | nil => exact fun l hl => absurd hl (by simp)
  | cons first _ ih =>
    refine List.forall_mem_cons.2 ⟨⟨_, List.mem_cons_self, first⟩, fun l hl => ?_⟩
    obtain ⟨ns, hns, named⟩ := ih l hl
    exact ⟨ns, List.mem_cons_of_mem _ hns, named⟩

/-- Sections with different base names have different file names. -/
theorem Named.pairwise {sections : List (List Target)} {names : List (List String)}
    (h : Named sections names) (separate : names.Pairwise fun ns ns' => ∀ n ∈ ns, n ∉ ns') :
    sections.Pairwise fun l l' => ∀ t ∈ l, ∀ t' ∈ l', t.filename ≠ t'.filename := by
  induction h with
  | nil => exact .nil
  | cons first rest ih =>
    obtain ⟨apart, others⟩ := List.pairwise_cons.1 separate
    refine List.pairwise_cons.2 ⟨fun l hl t ht t' ht' same => ?_, ih others⟩
    obtain ⟨ns, hns, named⟩ := Named.exists_of_mem rest l hl
    exact apart ns hns _ (first t ht) (Target.basename_congr same ▸ named t' ht')

theorem Named.nodup_flatten {sections : List (List Target)} {names : List (List String)}
    (h : Named sections names) (separate : names.Pairwise fun ns ns' => ∀ n ∈ ns, n ∉ ns')
    (each : ∀ l ∈ sections, (l.map Target.filename).Nodup) :
    (sections.flatten.map Target.filename).Nodup := by
  have apart := h.pairwise separate
  clear h separate
  induction sections with
  | nil => exact List.nodup_nil
  | cons l rest ih =>
    obtain ⟨hl, hrest⟩ := List.forall_mem_cons.1 each
    obtain ⟨first, others⟩ := List.pairwise_cons.1 apart
    rw [List.flatten_cons]
    refine nodup_filenames_append hl (ih hrest others) fun t ht t' ht' => ?_
    obtain ⟨l', hl', hmem⟩ := List.mem_flatten.1 ht'
    exact first l' hl' t ht t' hmem

end Sections

/-! ### Declared names -/

/-- The packages of a path have directories without slashes in their names. -/
def DeclarationPath.SlashFree (path : DeclarationPath) : Prop :=
  ∀ n ∈ path.packagePath, '/' ∉ n.segment.toList

instance (path : DeclarationPath) : Decidable path.SlashFree :=
  inferInstanceAs (Decidable (∀ n ∈ path.packagePath, '/' ∉ n.segment.toList))

theorem DeclarationPath.SlashFree.dirs {path : DeclarationPath} (h : path.SlashFree) :
    ∀ d ∈ path.dirs, '/' ∉ d.toList :=
  List.forall_mem_map.2 h

theorem DeclarationPath.SlashFree.shared {path : DeclarationPath} (h : path.SlashFree) :
    path.shared.SlashFree :=
  forall_packagePath_shared (by decide +kernel) h

namespace Api

/-- No directory and no file of an API has a slash in its name. -/
structure SlashFree (api : Api) : Prop where
  types : ∀ e ∈ api.types.entries, e.2.path.SlashFree ∧ e.2.path.ProperFile
  services : ∀ e ∈ api.services.entries,
    e.2.path.SlashFree ∧ e.2.path.ProperFile ∧ e.2.path.ProperLast
  errors : ∀ e ∈ api.errors.entries, e.2.path.SlashFree

instance (api : Api) : Decidable api.SlashFree :=
  decidable_of_iff
    ((∀ e ∈ api.types.entries, e.2.path.SlashFree ∧ e.2.path.ProperFile) ∧
      (∀ e ∈ api.services.entries,
        e.2.path.SlashFree ∧ e.2.path.ProperFile ∧ e.2.path.ProperLast) ∧
      ∀ e ∈ api.errors.entries, e.2.path.SlashFree)
    ⟨fun h => ⟨h.1, h.2.1, h.2.2⟩, fun h => ⟨h.types, h.services, h.errors⟩⟩

theorem SlashFree.type {api : Api} (free : api.SlashFree) {id : TypeId} {t : TypeDeclaration}
    (ht : api.types.get? id = some t) : t.path.SlashFree ∧ t.path.ProperFile :=
  free.types (id, t) (Table.get?_eq_some_iff.1 ht)

theorem SlashFree.service {api : Api} (free : api.SlashFree) {id : ServiceId} {s : Service}
    (hs : api.services.get? id = some s) :
    s.path.SlashFree ∧ s.path.ProperFile ∧ s.path.ProperLast :=
  free.services (id, s) (Table.get?_eq_some_iff.1 hs)

/-- The shared package brings no slashes along. -/
theorem SlashFree.resolveCycles {api corrected : Api} (free : api.SlashFree) {importPath : String}
    {report : CycleReport} (h : api.resolveCycles importPath = .ok (corrected, report)) :
    corrected.SlashFree := by
  have types := path_of_resolveCycles h (P := fun p => p.SlashFree ∧ p.ProperFile)
    (fun p hp => ⟨hp.1.shared, hp.2.shared⟩) fun id t ht => free.type ht
  obtain ⟨f, rfl⟩ := exists_mapPaths_of_resolveCycles h
  exact ⟨fun e he => types e.1 e.2 (Table.get?_eq_some_iff.2 he), free.services, free.errors⟩

/-- A name that files are given: that of the file of a type or a service, or of the innermost
package of a service without a file. -/
def NamesFile (api : Api) (n : Name) : Prop :=
  (∃ id t, api.types.get? id = some t ∧ t.path.file = some n) ∨
    ∃ id s, api.services.get? id = some s ∧ s.path.file.or s.path.lastPackage? = some n

/-- Moving types brings no names along but that of the shared package. -/
theorem namesFile_of_resolveCycles {api corrected : Api} {importPath : String}
    {report : CycleReport} (h : api.resolveCycles importPath = .ok (corrected, report)) {n : Name}
    (named : corrected.NamesFile n) : api.NamesFile n ∨ n = .ofIdentifier sharedName := by
  have files := path_of_resolveCycles h
    (P := fun p => ∀ n, p.file = some n → api.NamesFile n ∨ n = .ofIdentifier sharedName)
    (fun p hp n file => ?_) fun id t ht n file => .inl (.inl ⟨id, t, ht, file⟩)
  -- Services do not move.
  · obtain ⟨f, rfl⟩ := exists_mapPaths_of_resolveCycles h
    rcases named with ⟨id, t, ht, file⟩ | service
    · exact files id t ht n file
    · exact .inl (.inr service)
  · rw [DeclarationPath.shared] at file
    split at file
    · exact hp n file
    · exact .inr (Option.some.inj file).symm

variable {api : Api} {includeRequests : Bool} {files : List (FileOf Placed)}

/-- A file with declarations lies in the package of a path, under a name that the API gives or under
the default name. -/
def Declares (api : Api) (t : Target) : Prop :=
  ∃ (path : DeclarationPath) (basename : String), path.SlashFree ∧ '/' ∉ basename.toList ∧
    t = .inDirs path.dirs (sourceFile basename) api.rootPackageName ∧
    (basename = defaultBasename ∨ ∃ n, api.NamesFile n ∧ basename = n.basename)

theorem declares_inDirs {path : DeclarationPath} (packages : path.SlashFree)
    {name : Option Name} (proper : ∀ n ∈ name, '/' ∉ n.basename.toList)
    (named : ∀ n ∈ name, api.NamesFile n) :
    api.Declares (.inDirs path.dirs (sourceFile ((name.map Name.basename).getD defaultBasename))
      api.rootPackageName) := by
  refine ⟨path, _, packages, DeclarationPath.slash_not_mem_getD proper, rfl, ?_⟩
  cases name with
  | none => exact .inl rfl
  | some n => exact .inr ⟨n, named n rfl, rfl⟩

theorem TargetOf.declares (free : api.SlashFree) {id : TypeId} {t : TypeDeclaration}
    (ht : api.types.get? id = some t) {target : Target} (h : api.TargetOf t target) :
    api.Declares target := by
  obtain ⟨packages, file⟩ := free.type ht
  cases h with
  | file => exact declares_inDirs packages file fun n hn => .inl ⟨id, t, ht, hn⟩
  | package => exact ⟨t.path, defaultBasename, packages, by decide, rfl, .inl rfl⟩
  | @service service s hs _ =>
    obtain ⟨packages', file', last'⟩ := free.service hs
    refine declares_inDirs packages' (fun n hn => ?_) fun n hn => .inr ⟨service, s, hs, hn⟩
    rcases Option.or_eq_some_iff.1 hn with hfile | ⟨-, hlast⟩
    · exact file' n hfile
    · exact last' n hlast

theorem declares_of_mem_placeFiles (free : api.SlashFree)
    (h : api.placeFiles includeRequests = .ok files) {f : FileOf Placed} (hf : f ∈ files) :
    api.Declares f.target := by
  obtain ⟨targets, -, rfl⟩ := placeFiles_eq_ok h
  -- No file is empty, and any of its declarations says where it lies.
  obtain ⟨d, hd⟩ := List.exists_mem_of_ne_nil _ (contents_ne_nil hf)
  cases d with
  | type id =>
    obtain ⟨t, ht, target⟩ := targets_of_mem_placeFiles h hf hd
    exact target.declares free ht
  | request service endpoint =>
    obtain ⟨s, hs, target⟩ := service_of_mem_placeFiles h hf hd
    obtain ⟨packages, file, -⟩ := free.service hs
    rw [target]
    refine declares_inDirs packages file fun n hn => .inr ⟨service, s, hs, ?_⟩
    rw [Option.mem_def.1 hn, Option.some_or]

theorem Declares.located {t : Target} (h : api.Declares t) : t.Located api.rootPackageName := by
  obtain ⟨path, basename, packages, slash, rfl, -⟩ := h
  exact ⟨path.dirs, _, packages.dirs, slash_not_mem_sourceFile slash, rfl⟩

/-- A file with declarations has the base name of a fixed file only if the API gives it this
name. -/
theorem Declares.exists_name {t : Target} (h : api.Declares t)
    (fixed : t.basename ∈ sectionBasenames.flatten) :
    ∃ n, api.NamesFile n ∧ t.basename = sourceFile n.basename := by
  obtain ⟨path, basename, -, slash, rfl, name⟩ := h
  rw [Target.basename_inDirs _ _ (slash_not_mem_sourceFile slash)] at fixed ⊢
  rcases name with rfl | ⟨n, named, rfl⟩
  -- The default name is not taken.
  · have free : sourceFile defaultBasename ∉ sectionBasenames.flatten := by decide +kernel
    exact absurd fixed free
  · exact ⟨n, named, rfl⟩

theorem nodup_filenames_placeFiles (free : api.SlashFree)
    (h : api.placeFiles includeRequests = .ok files) :
    ((files.map FileOf.target).map Target.filename).Nodup := by
  refine nodup_filenames_of_located api.rootPackageName ?_ fun t ht => ?_
  · obtain ⟨targets, -, rfl⟩ := placeFiles_eq_ok h
    rw [map_target_gatherFiles]
    exact nodup_sorted_targets _
  · obtain ⟨f, hf, rfl⟩ := List.mem_map.1 ht
    exact (declares_of_mem_placeFiles free h hf).located

theorem nodup_filenames_placeErrors (free : api.SlashFree) :
    ((api.placeErrors.map FileOf.target).map Target.filename).Nodup := by
  refine nodup_filenames_of_located api.rootPackageName ?_ fun t ht => ?_
  · rw [placeErrors, map_target_gatherFiles]
    exact nodup_sorted_targets _
  · obtain ⟨f, hf, rfl⟩ := List.mem_map.1 ht
    obtain ⟨a, ha, target⟩ := List.mem_map.1 (mem_gatherFiles.1 hf).1
    obtain ⟨e, he, rfl⟩ := List.mem_map.1 ha
    exact ⟨e.2.path.dirs, errorsFilename, (free.errors e he).dirs, by decide, target.symm⟩

end Api

/-! ### Plans -/

/-- What keeps the files of a plan apart. -/
structure Plan.Apart (plan : Plan) (api : Api) : Prop where
  /-- Types and requests have one file per name. -/
  files : ((plan.files.map FileOf.target).map Target.filename).Nodup
  errors : ((plan.errors.map FileOf.target).map Target.filename).Nodup
  artifacts : ((plan.artifacts.map Artifact.target).map Target.filename).Nodup
  /-- Errors, documentation, clients and artifacts have no file in common. -/
  sections : plan.fixedSections.Pairwise fun l l' => ∀ t ∈ l, ∀ t' ∈ l', t.filename ≠ t'.filename
  /-- They share one with types or requests only where its base name is one of theirs, and the API
  gives a file this very name. -/
  reserved : ∀ f ∈ plan.files, ∀ t ∈ plan.fixedTargets, f.target.filename = t.filename →
    f.target.basename ∈ sectionBasenames.flatten ∧
      ∃ n, api.NamesFile n ∧ f.target.basename = sourceFile n.basename
  /-- Where this does not happen, only packages that share a directory can have documentation or
  clients in one file. -/
  nodup : (∀ f ∈ plan.files, ∀ t ∈ plan.fixedTargets, f.target.filename ≠ t.filename) →
    ((plan.docs.map DocFile.target).map Target.directory).Nodup →
    ((plan.clients.map Client.target).map Target.directory).Nodup →
    (plan.targets.map Target.filename).Nodup

theorem Plan.build_apart {config : Config} {api : Api} {registry : Registry} {tree : NormalTree}
    {plan : Plan} (free : api.SlashFree)
    (h : Plan.build config api registry tree = .ok plan) : plan.Apart api := by
  obtain ⟨placed, hErrors⟩ := Plan.build_eq_ok h
  obtain ⟨-, -, hArtifacts⟩ := Plan.sections_of_build h
  have named := Plan.named_fixedSections h
  have files := Api.nodup_filenames_placeFiles free placed
  have errors : ((plan.errors.map FileOf.target).map Target.filename).Nodup := by
    rw [hErrors]
    split
    · exact Api.nodup_filenames_placeErrors free
    · exact List.nodup_nil
  have artifacts : ((plan.artifacts.map Artifact.target).map Target.filename).Nodup := by
    rw [hArtifacts, List.map_map]
    exact nodup_filename_placeArtifacts ..
  -- Sections with different base names share no file, which leaves the files of the types.
  refine ⟨files, errors, artifacts, named.pairwise sectionBasenames_disjoint, ?_, ?_⟩
  -- A file that shares its target with a fixed one has the base name of that section.
  · intro f hf t ht same
    obtain ⟨l, hl, hmem⟩ := List.mem_flatten.1 ht
    obtain ⟨names, hnames, within⟩ := named.exists_of_mem l hl
    have fixed : f.target.basename ∈ sectionBasenames.flatten := by
      rw [Target.basename_congr same]
      exact List.mem_flatten.2 ⟨names, hnames, within t hmem⟩
    exact ⟨fixed, (Api.declares_of_mem_placeFiles free placed hf).exists_name fixed⟩
  -- Where this does not happen, the sections are told apart and each has its targets once.
  · intro unreserved docs clients
    rw [Plan.targets_eq]
    refine nodup_filenames_append files ?_ fun t ht t' ht' => ?_
    · refine named.nodup_flatten sectionBasenames_disjoint ?_
      simp only [Plan.fixedSections, List.forall_mem_cons]
      exact ⟨errors, nodup_filenames_of_directories docs, nodup_filenames_of_directories clients,
        artifacts, by simp⟩
    · obtain ⟨f, hf, rfl⟩ := List.mem_map.1 ht
      exact unreserved f hf t' ht'

/-- **The files of a plan are kept apart**, as far as the names in the API allow. -/
theorem planning_apart {config : Config} {api : Api} {c : Context} (free : api.SlashFree)
    (ok : planning config api = .ok c) : ∃ plan, c.plan = some plan ∧ plan.Apart api := by
  obtain ⟨r, rfl⟩ := planning_eq_ok_iff.1 ok
  have apart := Plan.build_apart (free.resolveCycles r.resolved) r.placed
  refine ⟨r.plan, rfl, { apart with reserved := fun f hf t ht same => ?_ }⟩
  obtain ⟨fixed, n, named, own⟩ := apart.reserved f hf t ht same
  rcases Api.namesFile_of_resolveCycles r.resolved named with named | rfl
  · exact ⟨fixed, n, named, own⟩
  -- The file that types move to has a name that no section uses.
  · have unused : sourceFile (Name.ofIdentifier sharedName).basename ∉
        sectionBasenames.flatten := by decide +kernel
    rw [own] at fixed
    exact absurd fixed unused

theorem planning_apart_nestedApi :
    nestedApi.SlashFree ∧ ∃ c, planning .default nestedApi = .ok c ∧
      ∃ plan, c.plan = some plan ∧ plan.Apart nestedApi := by
  have free : nestedApi.SlashFree := by decide +kernel
  have valid : nestedApi.validate = .ok () := by decide +kernel
  have usage : nestedApi.UsageKnown := by decide +kernel
  have inside : nestedApi.firstCrossing "" = none := by decide +kernel
  obtain ⟨c, ok, -⟩ : ∃ c, planning .default nestedApi = .ok c ∧ _ :=
    exists_planning_of_inside (Api.intact_of_validate valid) usage rfl inside
  exact ⟨free, c, ok, planning_apart free ok⟩

/-! ### Names that are taken twice -/

/-- A name whose directory has a slash in it. -/
def slashedName : Name :=
  { Name.ofIdentifier "ab" with camel := .ofPlain "a/b" }

/-- An API with a file `errors` beside errors, a package `a/b` beside a package `b` in `a`, two
documented packages in one directory, and a service with the client of the root package. -/
def clashingApi : Api :=
  Api.empty (.ofIdentifier "acme")
    |>.addObject "Fault" (.ofIdentifiers [] (some "errors")) []
    |>.addObject "Inner" (.ofIdentifiers ["a", "b"] none) []
    |>.addObject "Outer" (.new [slashedName] none) []
    |>.addError "NotFound" .root none
    |>.addService "service_client" (.ofIdentifiers [] (some "client")) [.withWrapper "create"]
    |>.addSubpackage "client" (.ofIdentifiers [] (some "client")) (some "service_client") []
    |>.addSubpackage "users" (.ofIdentifiers [] (some "users")) none []
    |>.documentSubpackage "client" "Access."
    |>.documentSubpackage "users" "Users."
    |>.setRootPackage none ["client", "users"]

/-- A plan of a valid API can have two files of one name: within the sections of declarations,
documentation and clients, and across the first two sections. -/
theorem planning_repeats_filenames_clashingApi :
    clashingApi.validate = .ok () ∧
      ∃ c plan, planning .default clashingApi = .ok c ∧ c.plan = some plan ∧
        ¬ (plan.targets.map Target.filename).Nodup ∧
        ¬ ((plan.files.map FileOf.target).map Target.filename).Nodup ∧
        (∃ f ∈ plan.files, ∃ e ∈ plan.errors, f.target.filename = e.target.filename) ∧
        ¬ ((plan.docs.map DocFile.target).map Target.filename).Nodup ∧
        ¬ ((plan.clients.map Client.target).map Target.filename).Nodup := by
  have valid : clashingApi.validate = .ok () := by decide +kernel
  have usage : clashingApi.UsageKnown := by decide +kernel
  have inside : clashingApi.firstCrossing "" = none := by decide +kernel
  obtain ⟨c, ok, corrected, -⟩ : ∃ c, planning .default clashingApi = .ok c ∧
      c.corrected = some clashingApi ∧ _ :=
    exists_planning_of_inside (Api.intact_of_validate valid) usage rfl inside
  obtain ⟨r, rfl⟩ := planning_eq_ok_iff.1 ok
  have placed := r.placed
  have normal := r.normal
  rw [Option.some.inj corrected] at placed normal
  obtain ⟨files, errors⟩ := Plan.build_eq_ok placed
  obtain ⟨docs, clients, -⟩ := Plan.sections_of_build placed
  obtain ⟨targets, ht, gathered⟩ := Api.placeFiles_eq_ok files
  obtain rfl := Except.ok.inj ht
  -- Files are sorted, so what is looked at is what they were gathered from.
  have file : ∀ t, t ∈ (clashingApi.assignments true clashingApi.perTypeTargets).map Prod.fst →
      t ∈ r.plan.files.map FileOf.target := by
    intro t mem
    rw [gathered, mem_targets_gatherFiles]
    exact mem
  have files_repeat : ¬ ((r.plan.files.map FileOf.target).map Target.filename).Nodup := by
    intro once
    have same := List.inj_on_of_nodup_map once (file ⟨"a/b/types.go", "b"⟩ (by decide +kernel))
      (file ⟨"a/b/types.go", "a/b"⟩ (by decide +kernel)) rfl
    exact absurd same (by decide)
  refine ⟨valid, _, r.plan, ok, rfl, fun once => files_repeat ?_, files_repeat, ?_, ?_, ?_⟩
  · rw [Plan.targets_eq, List.map_append] at once
    exact (List.nodup_append.1 once).1
  · obtain ⟨f, hf, hft⟩ := List.mem_map.1 (file ⟨"errors.go", "acme"⟩ (by decide +kernel))
    have error : (⟨"errors.go", "acme"⟩ : Target) ∈ r.plan.errors.map FileOf.target := by
      rw [errors, if_pos (by decide), Api.placeErrors, mem_targets_gatherFiles]
      decide +kernel
    obtain ⟨e, he, het⟩ := List.mem_map.1 error
    exact ⟨f, hf, e, he, by rw [hft, het]⟩
  · rw [docs]
    decide +kernel
  · have names : (match NormalTree.ofApi clashingApi with
        | .ok tree =>
          match clashingApi.placeClients tree with
          | .ok clients => (clients.map Client.target).map Target.filename
          | .error _ => []
        | .error _ => []) = ["client/client.go", "client/client.go"] := by decide +kernel
    rw [if_pos (by decide)] at clients
    rw [normal] at names
    simp only [clients] at names
    rw [names]
    decide

end SdkLayout
