import SdkLayout.Api.Builder
import SdkLayout.Proofs.FileNames
import SdkLayout.Proofs.PlacedFiles

/-!
# When helpers give way

A singleton of the root package has three places. Which of them it takes depends on whether one of
its names is taken, and on whether it is *shadowed*. The answers decide the place and whether it
counts as a fallback, for all singletons alike (`Singleton.follows_place`). The registry answers the
first question for what the API exports (`Registry.hasName_iff_exports`).

**What shadows a helper.** A default file is to be given up if the file of a service produces a
package of its name (`Api.Produces`). The environments and the optional values ask for that. The
pointers do not: they ask whether a declaration is exported as `Pointer`, so that they keep to the
rule only where the two questions have the same answer (`placements_follow`). Next to a service with
a file `pointer` they stay in the very file that has the requests of the service
(`pointerFileApi_not_follows`).
-/

namespace SdkLayout

/-! ### What an API declares -/

namespace Api

/-- A type, an error or a variable of the API is exported under a name. -/
def Exports (api : Api) (name : String) : Prop :=
  (∃ id t, api.types.get? id = some t ∧ t.name.exported = name) ∨
    (∃ id e, api.errors.get? id = some e ∧ e.name.exported = name) ∨
      ∃ v ∈ api.globals, v.name.exported = name

/-- One of the names of a singleton is taken. -/
def Takes (api : Api) (s : Singleton) : Prop :=
  ∃ name ∈ s.names, api.Exports name

/-- The file of a service produces a package that the default file of a singleton is named after. -/
def Produces (api : Api) (s : Singleton) : Prop :=
  ∃ id service file, api.services.get? id = some service ∧ service.path.file = some file ∧
    sourceFile file.segment = s.filename

end Api

namespace Registry

variable {api : Api}

theorem hasName_ofApi {name : String} :
    (ofApi api).hasName name = true ↔ name ∈ exportedNames api := by
  rw [hasName, List.contains_iff_mem]
  exact mem_sortedStrings

theorem hasPackage_ofApi {package : String} :
    (ofApi api).hasPackage package = true ↔ package ∈ servicePackages api := by
  rw [hasPackage, List.contains_iff_mem]
  exact mem_sortedStrings

/-- The registry knows the names under which something is exported, and no others. -/
theorem hasName_iff_exports {name : String} :
    (ofApi api).hasName name = true ↔ api.Exports name := by
  -- Types and errors are exported by their tables in the same way.
  have values : ∀ {κ α : Type} [DecidableEq κ] (t : Table κ α) (f : α → String),
      name ∈ t.values.map f ↔ ∃ k a, t.get? k = some a ∧ f a = name := by
    intro κ α _ t f
    rw [List.mem_map]
    constructor
    · rintro ⟨a, ha, rfl⟩
      obtain ⟨k, hk⟩ := Table.mem_values_iff.1 ha
      exact ⟨k, a, hk, rfl⟩
    · rintro ⟨k, a, hk, rfl⟩
      exact ⟨a, Table.mem_values_iff.2 ⟨k, hk⟩, rfl⟩
  rw [hasName_ofApi, exportedNames, List.mem_append, List.mem_append, or_assoc, values, values,
    List.mem_map]
  rfl

/-- The registry knows the packages that the files of services produce, and no others. -/
theorem hasPackage_iff_produces {s : Singleton} {package : String}
    (named : s.filename = sourceFile package) :
    (ofApi api).hasPackage package = true ↔ api.Produces s := by
  rw [hasPackage_ofApi, servicePackages, List.mem_filterMap]
  constructor
  · rintro ⟨service, there, produced⟩
    obtain ⟨id, hid⟩ := Table.mem_values_iff.1 there
    obtain ⟨file, hfile, rfl⟩ := Option.map_eq_some_iff.1 produced
    exact ⟨id, service, file, hid, hfile, named.symm⟩
  · rintro ⟨id, service, file, hid, hfile, same⟩
    have segment : file.segment = package := sourceFile_inj.1 (same.trans named)
    exact ⟨service, Table.mem_values_iff.2 ⟨id, hid⟩, by rw [hfile, Option.map_some, segment]⟩

end Registry

/-! ### The three places -/

namespace Singleton

/-- How a singleton gives way: to the core package if one of its names is taken, else to a file name
with an underscore in front if its default file is shadowed. -/
structure Follows (s : Singleton) (rootPackage : String) (taken shadowed : Prop) (a : Artifact) :
    Prop where
  core : a = .inCore s.kind s.coreFilename ↔ taken
  useCore : a.useCore = true ↔ taken
  prefixed : a = .inRoot s.kind ("_" ++ s.filename) rootPackage ↔ ¬ taken ∧ shadowed
  plain : a = .inRoot s.kind s.filename rootPackage ↔ ¬ taken ∧ ¬ shadowed
  isFallback : a.isFallback = true ↔ taken ∨ ¬ taken ∧ shadowed

variable {s : Singleton} {rootPackage : String} {registry : Registry}

/-- A singleton goes to the core package if and only if one of its names is taken. -/
theorem useCore_place (s : Singleton) (rootPackage : String) (shadowed : Bool) :
    (s.place rootPackage registry shadowed).useCore = true ↔
      ∃ name ∈ s.names, registry.hasName name = true := by
  rw [← List.any_eq_true, place]
  split
  · next taken => exact ⟨fun _ => taken, fun _ => rfl⟩
  · next free =>
    refine ⟨fun core => ?_, fun taken => absurd taken free⟩
    split at core <;> exact absurd core Bool.false_ne_true

/-- The places of a singleton are different from one another. -/
theorem places_ne (s : Singleton) (rootPackage file : String) :
    Artifact.inCore s.kind s.coreFilename ≠ .inRoot s.kind file rootPackage ∧
      Artifact.inRoot s.kind ("_" ++ s.filename) rootPackage ≠
        .inRoot s.kind s.filename rootPackage := by
  refine ⟨fun same => ?_, fun same => ?_⟩
  · exact absurd (congrArg Artifact.useCore same) (by simp [Artifact.inCore, Artifact.inRoot])
  · have names := congrArg (fun a => a.target.filename.length) same
    simp [Artifact.inRoot] at names

/-- In the root package, the file name tells whether a singleton has moved. -/
theorem isFallback_places (hs : s ∈ singletons) (rootPackage : String) :
    (Artifact.inCore s.kind s.coreFilename).isFallback = true ∧
      (Artifact.inRoot s.kind ("_" ++ s.filename) rootPackage).isFallback = true ∧
      (Artifact.inRoot s.kind s.filename rootPackage).isFallback = false := by
  have all : ∀ s ∈ singletons, s.kind.isSingleton = true ∧ s.filename.toList.head? ≠ some '_' := by
    decide
  obtain ⟨kind, unmarked⟩ := all s hs
  simp [Artifact.isFallback, Artifact.inCore, Artifact.inRoot, kind, unmarked]

/-- **The place of a singleton follows from two questions**, whether one of its names is taken and
whether its default file is shadowed. -/
theorem follows_place (hs : s ∈ singletons) (rootPackage : String) (shadowed : Bool) :
    s.Follows rootPackage (∃ name ∈ s.names, registry.hasName name = true) (shadowed = true)
      (s.place rootPackage registry shadowed) := by
  -- The three places are different ones, so that each of the answers below excludes the others.
  obtain ⟨notPlain, differ⟩ := s.places_ne rootPackage s.filename
  obtain ⟨notPrefixed, -⟩ := s.places_ne rootPackage ("_" ++ s.filename)
  obtain ⟨core, marked, unmarked⟩ := isFallback_places hs rootPackage
  have useCore : (s.place rootPackage registry shadowed).useCore = true ↔
      ∃ name ∈ s.names, registry.hasName name = true := s.useCore_place rootPackage shadowed
  -- The names are asked first: what shadows the file matters only if none of them is taken.
  by_cases taken : ∃ name ∈ s.names, registry.hasName name = true
  · have place : s.place rootPackage registry shadowed = .inCore s.kind s.coreFilename := by
      rw [Singleton.place, if_pos (List.any_eq_true.2 taken)]
    rw [place] at useCore ⊢
    exact ⟨by simp [taken], useCore, by simp [taken, notPrefixed], by simp [taken, notPlain],
      by simp [taken, core]⟩
  · have free : ¬ s.names.any registry.hasName = true := fun h => taken (List.any_eq_true.1 h)
    cases shadowed with
    | true =>
      have place : s.place rootPackage registry true =
          .inRoot s.kind ("_" ++ s.filename) rootPackage := by
        rw [Singleton.place, if_neg free, if_pos rfl]
      rw [place] at useCore ⊢
      exact ⟨by simp [taken, notPrefixed.symm], useCore, by simp [taken], by simp [differ],
        by simp [taken, marked]⟩
    | false =>
      have place : s.place rootPackage registry false = .inRoot s.kind s.filename rootPackage := by
        rw [Singleton.place, if_neg free, if_neg Bool.false_ne_true]
      rw [place] at useCore ⊢
      exact ⟨by simp [taken, notPlain.symm], useCore, by simp [differ.symm], by simp [taken],
        by simp [taken, unmarked]⟩

/-- Only where no name is taken does it matter what shadows a singleton. -/
theorem Follows.congr_shadowed {taken shadowed other : Prop} {a : Artifact}
    (h : s.Follows rootPackage taken shadowed a) :
    s.Follows rootPackage taken other a ↔ taken ∨ (other ↔ shadowed) := by
  constructor
  · intro h'
    -- Where no name is taken, the prefix tells what shadows the singleton.
    by_cases t : taken
    · exact .inl t
    · have same := h'.prefixed.symm.trans h.prefixed
      simp only [t, not_false_eq_true, true_and] at same
      exact .inr same
  · rintro (t | same)
    · have moot : ∀ {P : Prop}, ¬ taken ∧ P ↔ False := by simp [t]
      exact ⟨h.core, h.useCore, h.prefixed.trans (moot.trans moot.symm),
        h.plain.trans (moot.trans moot.symm), h.isFallback.trans (by simp [t])⟩
    · rwa [propext same]

end Singleton

/-! ### Helpers beside an API -/

section Placements

variable {api : Api} {s : Singleton}

/-- With the registry of an API, a name is taken if something is exported under it. -/
theorem follows_ofApi (hs : s ∈ singletons) {shadowed : Bool} {shadow : Prop}
    (answer : shadowed = true ↔ shadow) :
    s.Follows api.rootPackageName (api.Takes s) shadow
      (s.place api.rootPackageName (.ofApi api) shadowed) := by
  have taken : (∃ name ∈ s.names, (Registry.ofApi api).hasName name = true) ↔ api.Takes s :=
    exists_congr fun _ => and_congr_right fun _ => Registry.hasName_iff_exports
  rw [← propext taken, ← propext answer]
  exact Singleton.follows_place hs _ _

/-- **How the helpers of the root package give way.** All of them go to the core package for a name
that is taken. The environments and the optional values take a name with an underscore for a package
that a service produces, the pointers for a declaration `Pointer`. So the pointers do what the
others do if and only if one of their names is taken, or there are both a package `pointer` and a
declaration `Pointer`, or neither. -/
theorem placements_follow (api : Api) :
    environmentsSingleton.Follows api.rootPackageName (api.Takes environmentsSingleton)
      (api.Produces environmentsSingleton)
      (placeEnvironments api.rootPackageName (.ofApi api)) ∧
    optionalSingleton.Follows api.rootPackageName (api.Takes optionalSingleton)
      (api.Produces optionalSingleton)
      (placeOptionalHelpers api.rootPackageName (.ofApi api)) ∧
    pointerSingleton.Follows api.rootPackageName (api.Takes pointerSingleton)
      (api.Exports "Pointer")
      (placePointerHelpers api.rootPackageName (.ofApi api)) ∧
    (pointerSingleton.Follows api.rootPackageName (api.Takes pointerSingleton)
        (api.Produces pointerSingleton)
        (placePointerHelpers api.rootPackageName (.ofApi api)) ↔
      api.Takes pointerSingleton ∨ (api.Produces pointerSingleton ↔ api.Exports "Pointer")) := by
  have environments : (Registry.ofApi api).hasPackage "environments" = true ↔
      api.Produces environmentsSingleton := Registry.hasPackage_iff_produces (by decide)
  have optional : (Registry.ofApi api).hasPackage "optional" = true ↔
      api.Produces optionalSingleton := Registry.hasPackage_iff_produces (by decide)
  have pointer : pointerSingleton.Follows api.rootPackageName (api.Takes pointerSingleton)
      (api.Exports "Pointer") (placePointerHelpers api.rootPackageName (.ofApi api)) :=
    follows_ofApi (by simp [singletons]) Registry.hasName_iff_exports
  exact ⟨follows_ofApi (by simp [singletons]) environments,
    follows_ofApi (by simp [singletons]) optional, pointer, pointer.congr_shadowed⟩

end Placements

/-- An API with a service in a file `pointer` of the root package. -/
def pointerFileApi : Api :=
  Api.empty (.ofIdentifier "acme")
    |>.addService "service_pointer" (.ofIdentifiers [] (some "pointer")) [.withWrapper "create"]

/-- The pointers do not give way to a package that a service produces. They then share a file with
the requests of that service. -/
theorem pointerFileApi_not_follows :
    ¬ pointerSingleton.Follows pointerFileApi.rootPackageName
        (pointerFileApi.Takes pointerSingleton) (pointerFileApi.Produces pointerSingleton)
        (placePointerHelpers pointerFileApi.rootPackageName (.ofApi pointerFileApi)) ∧
      ∃ files f, pointerFileApi.placeFiles true = .ok files ∧ f ∈ files ∧
        .request ⟨"service_pointer"⟩ "create" ∈ f.contents ∧ f.target =
          (placePointerHelpers pointerFileApi.rootPackageName (.ofApi pointerFileApi)).target := by
  -- Nothing is exported, so that the helpers stay in their default file.
  have silent : ∀ name, ¬ pointerFileApi.Exports name := by
    rintro name (⟨id, t, ht, -⟩ | ⟨id, e, he, -⟩ | ⟨v, hv, -⟩)
    · exact absurd (show none = some t from ht) nofun
    · exact absurd (show none = some e from he) nofun
    · exact absurd (show v ∈ [] from hv) nofun
  have follows : pointerSingleton.Follows pointerFileApi.rootPackageName
      (pointerFileApi.Takes pointerSingleton) (pointerFileApi.Exports "Pointer")
      (placePointerHelpers pointerFileApi.rootPackageName (.ofApi pointerFileApi)) :=
    follows_ofApi (by simp [singletons]) Registry.hasName_iff_exports
  have free : ¬ pointerFileApi.Takes pointerSingleton := by
    rintro ⟨name, -, taken⟩
    exact silent name taken
  have plain := follows.plain.2 ⟨free, silent "Pointer"⟩
  refine ⟨fun other => (other.plain.1 plain).2 ?_, ?_⟩
  -- The policy asks for the prefix, as the service has this very name.
  · exact ⟨⟨"service_pointer"⟩, _, .ofIdentifier "pointer", rfl, rfl, by decide +kernel⟩
  · have usage : pointerFileApi.UsageKnown := by decide +kernel
    obtain ⟨files, placed⟩ := Api.exists_placeFiles usage true
    have service : pointerFileApi.services.get? ⟨"service_pointer"⟩ =
        some ⟨.ofIdentifiers [] (some "pointer"), [.withWrapper "create"]⟩ := rfl
    -- The request of the endpoint goes to the file of its service, which is the same.
    obtain ⟨f, hf, request, target⟩ :=
      Api.exists_file_of_request placed service (List.mem_singleton_self _) rfl
    refine ⟨files, f, placed, hf, request, ?_⟩
    rw [target, plain]
    decide +kernel

end SdkLayout
