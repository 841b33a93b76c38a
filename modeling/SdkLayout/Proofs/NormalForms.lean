import SdkLayout.Api.Builder
import SdkLayout.NormalTree

/-!
# The normal form is reached at once

Normalization has nothing left to do where no subpackage is a nested root
(`NormalTree.ofApi_of_flat`), and after it none is: a demoted subpackage has no file any more
(`Subpackage.isNestedRoot_normalize`). So the second run demotes nothing, whatever the tree is
like (`NormalTree.ofApi_demotes`). Children are never followed; a subpackage may be its own child.

The paths of services need more care. A service may be owned by several subpackages, some of them
demoted, and then comes up several times among the new paths, each time with the same one
(`NormalTree.demotedServices_spec`).
-/

namespace SdkLayout

/-! ### What normalization is to do -/

/-- The second path is the first with its file, if it has one, as the innermost package. -/
structure DeclarationPath.MovesTo (path path' : DeclarationPath) : Prop where
  packagePath : path'.packagePath = path.packagePath ++ path.file.toList
  file : path'.file = none
  /-- Messages do not show the move. -/
  display : path'.display = path.display
  /-- Of the two spellings of a path only that of its packages is kept. -/
  allParts : path.file ≠ none → path'.allParts = path'.packagePath
  /-- A path without a file stays, in both spellings. -/
  stays : path.file = none → path' = path

/-- A subpackage that is a file and a parent owns the service. -/
def Api.OwnedByNestedRoot (api : Api) (service : ServiceId) : Prop :=
  ∃ id p, api.subpackages.get? id = some p ∧ p.children ≠ [] ∧ p.path.file ≠ none ∧
    p.service = some service

/-- The second API is the first with its nested roots demoted. Nothing else differs. -/
structure Api.Demotes (api n : Api) : Prop where
  rest : n = { api with subpackages := n.subpackages, services := n.services }
  subpackageIds : n.subpackages.keys = api.subpackages.keys
  serviceIds : n.services.keys = api.services.keys
  /-- The file of a nested root becomes a package. -/
  nestedRoot : ∀ id p, api.subpackages.get? id = some p → p.children ≠ [] → p.path.file ≠ none →
    ∃ path, p.path.MovesTo path ∧ n.subpackages.get? id = some { p with path }
  subpackage : ∀ id p, api.subpackages.get? id = some p → p.children = [] ∨ p.path.file = none →
    n.subpackages.get? id = some p
  /-- The services of a nested root move with it. -/
  owned : ∀ id s, api.services.get? id = some s → api.OwnedByNestedRoot id →
    ∃ path, s.path.MovesTo path ∧ n.services.get? id = some { s with path }
  service : ∀ id s, api.services.get? id = some s → ¬ api.OwnedByNestedRoot id →
    n.services.get? id = some s

/-- Normalizing an API that the tree has been applied to comes to nothing. -/
structure NormalTree.Settles (tree : NormalTree) (n : Api) (again : NormalTree) : Prop where
  built : ofApi n = .ok again
  demoted : again.demoted = []
  servicePaths : again.servicePaths = .empty
  paths : (again.subpackages.mapEntries fun _ p => p.path) =
    tree.subpackages.mapEntries fun _ p => p.path
  apply : again.apply n = n

/-! ### Subpackages -/

theorem DeclarationPath.movesTo_withFileAsPackage (path : DeclarationPath) :
    path.MovesTo path.withFileAsPackage where
  packagePath := path.packagePath_withFileAsPackage
  file := path.file_withFileAsPackage
  display := path.display_withFileAsPackage
  allParts := by
    intro there
    obtain ⟨file, hfile⟩ := Option.ne_none_iff_exists'.1 there
    rw [withFileAsPackage, hfile]
    exact List.append_nil _
  stays := fun absent => by rw [withFileAsPackage, absent]

namespace Subpackage

theorem isNestedRoot_iff {p : Subpackage} :
    p.isNestedRoot = true ↔ p.children ≠ [] ∧ p.path.file ≠ none := by
  simp [isNestedRoot, Option.isSome_iff_ne_none]

theorem normalize_of_isNestedRoot {p : Subpackage} (h : p.isNestedRoot = true) :
    p.normalize = ⟨{ p with path := p.path.withFileAsPackage }, p.path, true⟩ := by
  rw [normalize, if_pos h, h]

theorem normalize_of_not_isNestedRoot {p : Subpackage} (h : ¬ p.isNestedRoot = true) :
    p.normalize = ⟨p, p.path, false⟩ := by
  rw [normalize, if_neg h, Bool.eq_false_iff.2 h]

/-- Putting the new path into a subpackage gives its normal form: only the path is new. -/
theorem with_path_normalize (p : Subpackage) :
    { p with path := p.normalize.path } = p.normalize.subpackage := by
  by_cases h : p.isNestedRoot = true
  · rw [normalize_of_isNestedRoot h]
    rfl
  · rw [normalize_of_not_isNestedRoot h]
    rfl

/-- A subpackage in normal form is no nested root: if it was one, its file is gone. -/
theorem isNestedRoot_normalize (p : Subpackage) :
    ¬ p.normalize.subpackage.isNestedRoot = true := by
  by_cases h : p.isNestedRoot = true
  · rw [normalize_of_isNestedRoot h, isNestedRoot_iff]
    rintro ⟨-, file⟩
    exact file p.path.file_withFileAsPackage
  · rw [normalize_of_not_isNestedRoot h]
    exact h

end Subpackage

namespace NormalTree

variable {api : Api} {tree : NormalTree}

/-! ### Services -/

theorem demotedService_of_not_isNestedRoot (id : SubpackageId) {p : Subpackage}
    (h : ¬ p.isNestedRoot = true) : demotedService api id p = .ok none := by
  rw [demotedService, Bool.eq_false_iff.2 h]

/-- What one subpackage contributes: the service that it owns, if it is a nested root. -/
theorem demotedService_spec {id : SubpackageId} {p : Subpackage}
    {own : Option (ServiceId × DeclarationPath)} (h : demotedService api id p = .ok own) :
    (∀ e ∈ own, ∃ s, api.services.get? e.1 = some s ∧ e.2 = s.path.withFileAsPackage) ∧
    ∀ service, own.map Prod.fst = some service ↔
      p.isNestedRoot = true ∧ p.service = some service := by
  unfold demotedService at h
  split at h
  · next service root owns =>
    -- A nested root that owns a service, which is there, as there is a result.
    split at h
    · next s hs =>
      obtain rfl := Except.ok.inj h
      refine ⟨fun e he => ?_, fun other => ?_⟩
      · obtain rfl := Option.some.inj he
        exact ⟨s, hs, rfl⟩
      · rw [Option.map_some, root, owns]
        simp
    · exact absurd h (by simp)
  · next other =>
    obtain rfl := Except.ok.inj h
    refine ⟨fun e he => absurd he (by simp), fun service => ?_⟩
    rw [Option.map_none]
    constructor
    · intro none
      exact absurd none (by simp)
    · rintro ⟨root, owns⟩
      exact absurd owns (other service root)

/-- The services with a new path are those that nested roots own, and the new path of a service
depends on the service alone, however often it comes up. -/
theorem demotedServices_spec {entries : List (SubpackageId × Subpackage)}
    {out : List (ServiceId × DeclarationPath)} (h : demotedServices api entries = .ok out) :
    (∀ e ∈ out, ∃ s, api.services.get? e.1 = some s ∧ e.2 = s.path.withFileAsPackage) ∧
    ∀ service, service ∈ out.map Prod.fst ↔
      ∃ e ∈ entries, e.2.isNestedRoot = true ∧ e.2.service = some service := by
  induction entries generalizing out with
  | nil =>
    obtain rfl := Except.ok.inj h
    exact ⟨fun e he => absurd he (by simp), fun service => by simp⟩
  | cons entry rest ih =>
    rw [demotedServices] at h
    split at h
    · exact absurd h (by simp)
    next own hown =>
    split at h
    · exact absurd h (by simp)
    next more hmore =>
    obtain rfl := Except.ok.inj h
    obtain ⟨ownPaths, owned⟩ := demotedService_spec hown
    obtain ⟨morePaths, moved⟩ := ih hmore
    -- What the first entry contributes stands before what the rest does.
    constructor
    · intro e he
      rcases List.mem_append.1 he with he | he
      · exact ownPaths e (Option.mem_toList.1 he)
      · exact morePaths e he
    · intro service
      have head : service ∈ own.toList.map Prod.fst ↔
          entry.2.isNestedRoot = true ∧ entry.2.service = some service := by
        rw [← owned service, ← Option.toList_map, Option.mem_toList]
      rw [List.map_append, List.mem_append, head, moved]
      simp only [List.mem_cons, exists_eq_or_imp]

theorem ofApi_eq_ok (h : ofApi api = .ok tree) :
    ∃ services, demotedServices api api.subpackages.entries = .ok services ∧
      tree = ⟨api.subpackages.mapEntries fun _ p => p.normalize, .ofList services⟩ := by
  unfold ofApi at h
  split at h
  · exact absurd h (by simp)
  next services hservices =>
  exact ⟨services, hservices, (Except.ok.inj h).symm⟩

theorem subpackages_of_ofApi (h : ofApi api = .ok tree) :
    tree.subpackages = api.subpackages.mapEntries fun _ p => p.normalize := by
  obtain ⟨_, _, rfl⟩ := ofApi_eq_ok h
  rfl

/-- A service that a nested root owns has a new path. -/
theorem get?_servicePaths_of_owned (h : ofApi api = .ok tree) {id : ServiceId} {s : Service}
    (hs : api.services.get? id = some s) (owned : api.OwnedByNestedRoot id) :
    tree.servicePaths.get? id = some s.path.withFileAsPackage := by
  obtain ⟨services, hservices, rfl⟩ := ofApi_eq_ok h
  obtain ⟨paths, moved⟩ := demotedServices_spec hservices
  obtain ⟨owner, p, hp, children, file, owns⟩ := owned
  have there : id ∈ services.map Prod.fst := (moved id).2
    ⟨(owner, p), Table.get?_eq_some_iff.1 hp, Subpackage.isNestedRoot_iff.2 ⟨children, file⟩, owns⟩
  obtain ⟨e, he, rfl⟩ := List.mem_map.1 there
  -- The table keeps the last entry of the service; its path is that of all of them.
  obtain ⟨last, hlast⟩ : ∃ last, services.reverse.find? (·.1 = e.1) = some last :=
    Option.isSome_iff_exists.1 (List.find?_isSome.2 ⟨e, List.mem_reverse.2 he, by simp⟩)
  have key : last.1 = e.1 := of_decide_eq_true (List.find?_some hlast :)
  obtain ⟨s', hs', path⟩ := paths last (List.mem_reverse.1 (List.mem_of_find?_eq_some hlast))
  rw [key, hs] at hs'
  rw [Table.get?_ofList, hlast, Option.map_some, path, Option.some.inj hs']

theorem get?_servicePaths_of_not_owned (h : ofApi api = .ok tree) {id : ServiceId}
    (free : ¬ api.OwnedByNestedRoot id) : tree.servicePaths.get? id = none := by
  obtain ⟨services, hservices, rfl⟩ := ofApi_eq_ok h
  rw [Table.get?_ofList, Option.map_eq_none_iff, List.find?_eq_none]
  intro e he same
  obtain ⟨⟨owner, p⟩, hp, root, owns⟩ := ((demotedServices_spec hservices).2 id).1
    (List.mem_map.2 ⟨e, List.mem_reverse.1 he, of_decide_eq_true same⟩)
  obtain ⟨children, file⟩ := Subpackage.isNestedRoot_iff.1 root
  exact free ⟨owner, p, Table.get?_eq_some_iff.2 hp, children, file, owns⟩

/-! ### The API with the paths of the tree -/

/-- The subpackages of the API in normal form are those of the tree. -/
theorem subpackages_apply (h : ofApi api = .ok tree) :
    (tree.apply api).subpackages =
      api.subpackages.mapEntries fun _ p => p.normalize.subpackage := by
  simp only [apply]
  refine Table.mapEntries_congr fun id p hp => ?_
  rw [subpackages_of_ofApi h, Table.get?_mapEntries, hp, Option.map_some]
  exact p.with_path_normalize

theorem get?_subpackages_apply (h : ofApi api = .ok tree) {id : SubpackageId} {p : Subpackage}
    (hp : api.subpackages.get? id = some p) :
    (tree.apply api).subpackages.get? id = some p.normalize.subpackage := by
  rw [subpackages_apply h, Table.get?_mapEntries, hp, Option.map_some]

theorem get?_services_apply (tree : NormalTree) {id : ServiceId} {s : Service}
    (hs : api.services.get? id = some s) :
    (tree.apply api).services.get? id =
      some { s with path := (tree.servicePaths.get? id).getD s.path } := by
  rw [apply, Table.get?_mapEntries, hs, Option.map_some]
  cases tree.servicePaths.get? id with
  | none => rfl
  | some path => rfl

/-- The nested roots of an API are demoted, with the services that they own, and nothing else
changes. -/
theorem demotes_apply (h : ofApi api = .ok tree) : api.Demotes (tree.apply api) where
  rest := rfl
  subpackageIds := Table.keys_mapEntries ..
  serviceIds := Table.keys_mapEntries ..
  nestedRoot := by
    intro id p hp children file
    refine ⟨p.path.withFileAsPackage, p.path.movesTo_withFileAsPackage, ?_⟩
    have root : p.isNestedRoot = true := Subpackage.isNestedRoot_iff.2 ⟨children, file⟩
    rw [get?_subpackages_apply h hp, Subpackage.normalize_of_isNestedRoot root]
  subpackage := by
    intro id p hp plain
    -- Not being a nested root has two reasons, and either will do.
    have notRoot : ¬ p.isNestedRoot = true := by
      rw [Subpackage.isNestedRoot_iff]
      rintro ⟨children, file⟩
      exact plain.elim children file
    rw [get?_subpackages_apply h hp, Subpackage.normalize_of_not_isNestedRoot notRoot]
  -- A service moves with the nested root that owns it, not for what it is itself.
  owned := by
    intro id s hs owned
    refine ⟨s.path.withFileAsPackage, s.path.movesTo_withFileAsPackage, ?_⟩
    rw [get?_services_apply tree hs, get?_servicePaths_of_owned h hs owned, Option.getD_some]
  service := by
    intro id s hs free
    rw [get?_services_apply tree hs, get?_servicePaths_of_not_owned h free, Option.getD_none]

/-! ### Where nothing is to do -/

theorem demotedServices_of_flat {entries : List (SubpackageId × Subpackage)}
    (flat : ∀ e ∈ entries, ¬ e.2.isNestedRoot = true) : demotedServices api entries = .ok [] := by
  induction entries with
  | nil => rfl
  | cons e rest ih =>
    obtain ⟨he, hrest⟩ := List.forall_mem_cons.1 flat
    rw [demotedServices, demotedService_of_not_isNestedRoot e.1 he, ih hrest]
    rfl

section Flat

variable (flat : ∀ id p, api.subpackages.get? id = some p → ¬ p.isNestedRoot = true)

include flat

/-- An API without nested roots is in normal form. -/
theorem ofApi_of_flat :
    ofApi api = .ok ⟨api.subpackages.mapEntries fun _ p => ⟨p, p.path, false⟩, .empty⟩ := by
  have services : demotedServices api api.subpackages.entries = .ok [] :=
    demotedServices_of_flat fun e he => flat e.1 e.2 (Table.get?_eq_some_iff.2 he)
  have subpackages : (api.subpackages.mapEntries fun _ p => p.normalize) =
      api.subpackages.mapEntries fun _ p => ⟨p, p.path, false⟩ :=
    Table.mapEntries_congr fun id p hp => Subpackage.normalize_of_not_isNestedRoot (flat id p hp)
  rw [ofApi, services, subpackages]
  rfl

/-- The normal form of an API without nested roots leaves it as it is. -/
theorem apply_of_flat (h : ofApi api = .ok tree) : tree.apply api = api := by
  have subpackages : (tree.apply api).subpackages = api.subpackages := by
    rw [subpackages_apply h]
    refine (Table.mapEntries_congr fun id p hp => ?_).trans (Table.mapEntries_self _)
    rw [Subpackage.normalize_of_not_isNestedRoot (flat id p hp)]
  have services : (tree.apply api).services = api.services := by
    simp only [apply]
    refine (Table.mapEntries_congr fun id s _ => ?_).trans (Table.mapEntries_self _)
    -- An owner that is demoted would be a nested root.
    have free : ¬ api.OwnedByNestedRoot id := by
      rintro ⟨owner, p, hp, children, file, -⟩
      exact flat owner p hp (Subpackage.isNestedRoot_iff.2 ⟨children, file⟩)
    rw [get?_servicePaths_of_not_owned h free]
  calc tree.apply api
      = { api with subpackages := (tree.apply api).subpackages
                   services := (tree.apply api).services } := rfl
    _ = api := by rw [subpackages, services]

end Flat

/-- **Normalization demotes the nested roots and no other subpackage, and doing it once is
enough.** -/
theorem ofApi_demotes (h : ofApi api = .ok tree) :
    api.Demotes (tree.apply api) ∧
    ((tree.subpackages.mapEntries fun _ p => p.declaredPath) =
      api.subpackages.mapEntries fun _ p => p.path) ∧
    ∃ again, tree.Settles (tree.apply api) again := by
  -- What the first run leaves has no nested root, so that the second run has nothing to do.
  have flat : ∀ id p, (tree.apply api).subpackages.get? id = some p → ¬ p.isNestedRoot = true := by
    intro id p hp
    rw [subpackages_apply h, Table.get?_mapEntries] at hp
    obtain ⟨q, -, rfl⟩ := Option.map_eq_some_iff.1 hp
    exact q.isNestedRoot_normalize
  have built := ofApi_of_flat flat
  refine ⟨demotes_apply h, ?_, _, built, ?_, rfl, ?_, apply_of_flat flat built⟩
  · rw [subpackages_of_ofApi h, Table.mapEntries_mapEntries]
    rfl
  · refine List.filter_eq_nil_iff.2 fun e he => ?_
    rw [Table.entries_mapEntries] at he
    obtain ⟨_, _, rfl⟩ := List.mem_map.1 he
    exact Bool.false_ne_true
  · rw [subpackages_apply h, subpackages_of_ofApi h, Table.mapEntries_mapEntries,
      Table.mapEntries_mapEntries, Table.mapEntries_mapEntries]
    rfl

/-- An API in which two nested roots, one of them its own child, share a service. -/
def sharedServiceApi : Api :=
  Api.empty (.ofIdentifier "acme")
    |>.addService "service_config" (.ofIdentifiers [] (some "config")) []
    |>.addService "service_orgs" (.ofIdentifiers ["orgs"] none) []
    |>.addSubpackage "config" (.ofIdentifiers [] (some "config")) (some "service_config") ["flags"]
    |>.addSubpackage "flags" (.ofIdentifiers ["config"] (some "flags")) (some "service_config")
      ["flags"]
    |>.addSubpackage "orgs" (.ofIdentifiers [] (some "orgs")) (some "service_orgs") []

theorem ofApi_demotes_sharedServiceApi :
    ∃ tree, ofApi sharedServiceApi = .ok tree ∧
      tree.demoted.map Prod.fst = [⟨"config"⟩, ⟨"flags"⟩] ∧
      sharedServiceApi.Demotes (tree.apply sharedServiceApi) ∧
      ((tree.subpackages.mapEntries fun _ p => p.declaredPath) =
        sharedServiceApi.subpackages.mapEntries fun _ p => p.path) ∧
      ∃ again, tree.Settles (tree.apply sharedServiceApi) again := by
  obtain ⟨tree, h, moved⟩ : ∃ tree, ofApi sharedServiceApi = .ok tree ∧
      tree.demoted.map Prod.fst = [⟨"config"⟩, ⟨"flags"⟩] := ⟨_, rfl, rfl⟩
  exact ⟨tree, h, moved, ofApi_demotes h⟩

end NormalTree

end SdkLayout
