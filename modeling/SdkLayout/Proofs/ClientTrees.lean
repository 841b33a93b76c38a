import SdkLayout.Proofs.NormalForms
import SdkLayout.Proofs.PackageTrees

/-!
# The client tree

Two rules decide about a subpackage. It *has* a client if it owns a service or has a child with
endpoints in its tree (`Subpackage.needsClient`); it is *listed* by the client of its parent if it
has endpoints in its tree itself (`Api.hasEndpoints`). The flag of a definition is taken as it is,
so that the rules can differ. They lead to a closed tree, in which every listed child has a client,
where each subpackage with the flag has a reason for it.

**Where clients are.** The client of a subpackage goes with the path of its service in the normal
form of the API, or else with its own. The client of the root package is apart: it stays at the
declared path of the root package, also if the root package owns a service
(`rootServiceApi_clientTarget`).
-/

namespace SdkLayout

/-- The client of the root package. -/
structure RootPackage.IsClient (api : Api) (root : RootPackage) (c : Client) : Prop where
  subpackage : c.subpackage = none
  service : c.service = root.service
  children : c.children = root.children.filter api.hasEndpoints
  declaredPath : c.declaredPath = root.path
  target : c.target = root.path.clientTarget

/-- The client of a subpackage of an API that has a normal form. -/
structure Subpackage.IsClient (api normal : Api) (id : SubpackageId) (p : Subpackage) (c : Client) :
    Prop where
  subpackage : c.subpackage = some id
  service : c.service = p.service
  children : c.children = p.children.filter api.hasEndpoints
  declaredPath : c.declaredPath = p.path
  ofService : ∀ service, p.service = some service →
    ∃ s, normal.services.get? service = some s ∧ c.target = s.path.clientTarget
  ofSubpackage : p.service = none →
    ∃ q, normal.subpackages.get? id = some q ∧ c.target = q.path.clientTarget

/-- Every subpackage with endpoints in its tree owns a service or has a child with endpoints. -/
def Api.FlagsFounded (api : Api) : Prop :=
  ∀ id p, api.subpackages.get? id = some p → p.hasEndpointsInTree = true →
    p.service ≠ none ∨ ∃ child ∈ p.children, api.hasEndpoints child = true

variable {api : Api} {tree : NormalTree} {clients : List Client}

/-! ### Paths -/

/-- The path of a service in the tree is its path in the normal form of the API. -/
theorem NormalTree.servicePath?_eq (normal : ofApi api = .ok tree) (id : ServiceId) :
    tree.servicePath? api id = ((tree.apply api).services.get? id).map Service.path := by
  cases hs : api.services.get? id with
  | some s =>
    rw [get?_services_apply tree hs, servicePath?, hs]
    cases tree.servicePaths.get? id <;> rfl
  | none =>
    -- No demoted subpackage owns a service that is missing.
    have free : tree.servicePaths.get? id = none := by
      obtain ⟨services, hservices, rfl⟩ := ofApi_eq_ok normal
      rw [Table.get?_ofList, Option.map_eq_none_iff, List.find?_eq_none]
      intro e he same
      obtain ⟨s, hs', -⟩ := (demotedServices_spec hservices).1 e (List.mem_reverse.1 he)
      rw [of_decide_eq_true same, hs] at hs'
      exact absurd hs' (by simp)
    rw [apply, Table.get?_mapEntries, servicePath?, free, hs]
    rfl

theorem Api.clientPath_eq_ok {referrer : String} {p : NormalSubpackage} {path : DeclarationPath}
    (h : api.clientPath tree referrer p = .ok path) :
    (∀ service, p.subpackage.service = some service →
      tree.servicePath? api service = some path) ∧
    (p.subpackage.service = none → path = p.path) := by
  unfold clientPath at h
  split at h
  -- Without a service the path is that of the subpackage.
  · next none =>
    rw [none]
    exact ⟨nofun, fun _ => (Except.ok.inj h).symm⟩
  next service owned =>
  split at h
  · next found hfound =>
    rw [owned]
    refine ⟨fun other same => ?_, nofun⟩
    rw [← Option.some.inj same, hfound, Except.ok.inj h]
  · exact absurd h (by simp)

/-! ### Clients -/

theorem Subpackage.needsClient_iff {p : Subpackage} :
    p.needsClient api = true ↔
      p.service ≠ none ∨ ∃ child ∈ p.children, api.hasEndpoints child = true := by
  rw [needsClient, Bool.or_eq_true, Option.isSome_iff_ne_none, List.any_eq_true]

/-- The client of a subpackage is as it should be. -/
theorem Api.isClient_of_subpackageClient (normal : NormalTree.ofApi api = .ok tree)
    {id : SubpackageId} {p : Subpackage} (hp : api.subpackages.get? id = some p) {c : Client}
    (h : api.subpackageClient tree id p.normalize = .ok (some c)) :
    p.IsClient api (tree.apply api) id c := by
  obtain ⟨-, made⟩ := subpackageClient_eq_ok h
  obtain ⟨referrer, path, hpath, rfl⟩ := made c rfl
  obtain ⟨ofService, ofSubpackage⟩ := clientPath_eq_ok hpath
  rw [p.service_normalize] at ofService ofSubpackage
  -- Normalizing a subpackage leaves its service and its children as they are.
  refine ⟨rfl, p.service_normalize, ?_, rfl, fun service owned => ?_, fun free => ?_⟩
  · rw [p.children_normalize]
  · have found := ofService service owned
    rw [NormalTree.servicePath?_eq normal] at found
    obtain ⟨s, hs, rfl⟩ := Option.map_eq_some_iff.1 found
    exact ⟨s, hs, rfl⟩
  · refine ⟨_, NormalTree.get?_subpackages_apply normal hp, ?_⟩
    rw [ofSubpackage free, NormalSubpackage.path]

/-- The root package has a client. -/
theorem Api.forall₂_rootClients (h : api.rootClients = .ok clients) :
    List.Forall₂ (fun root c => root.IsClient api c) api.rootPackage.toList clients := by
  rw [rootClients_eq_ok h, List.forall₂_map_right_iff]
  exact List.forall₂_same.2 fun _ _ => ⟨rfl, rfl, rfl, rfl, rfl⟩

/-- The subpackages that need a client have one, in the order of the table. -/
theorem Api.forall₂_subpackageClients (normal : NormalTree.ofApi api = .ok tree)
    (h : api.subpackageClients tree tree.subpackages.entries = .ok clients) :
    List.Forall₂ (fun e c => e.2.IsClient api (tree.apply api) e.1 c)
      (api.subpackages.entries.filter fun e => e.2.needsClient api) clients := by
  have made := subpackageClients_eq_ok h
  have needs : ∀ p : Subpackage, p.normalize.subpackage.needsClient api = p.needsClient api := by
    intro p
    rw [Subpackage.needsClient, p.service_normalize, p.children_normalize, Subpackage.needsClient]
  -- The normal tree has the same subpackages in the same order, and the same of them need a client.
  rw [NormalTree.subpackages_of_ofApi normal, Table.entries_mapEntries, List.filter_map,
    List.forall₂_map_left_iff] at made
  simp only [Function.comp_def, needs] at made
  have known : ∀ e ∈ api.subpackages.entries.filter (fun e => e.2.needsClient api),
      api.subpackages.get? e.1 = some e.2 := by
    intro e he
    exact Table.get?_eq_some_iff.2 (List.mem_filter.1 he).1
  refine ((List.forall₂_and_left ..).2 ⟨known, made⟩).imp ?_
  rintro e c ⟨he, hc⟩
  exact isClient_of_subpackageClient normal he hc

section Identity

variable {normal : Api} {roots subs : List Client} {entries : List (SubpackageId × Subpackage)}

theorem map_subpackage_roots
    (h : List.Forall₂ (fun root c => root.IsClient api c) api.rootPackage.toList roots) :
    roots.map Client.subpackage = api.rootPackage.toList.map fun _ => none := by
  have same : List.Forall₂ Eq (roots.map Client.subpackage)
      (api.rootPackage.toList.map fun _ => none) := by
    rw [List.forall₂_map_left_iff, List.forall₂_map_right_iff]
    exact (h.imp fun root c made => made.subpackage).flip
  exact List.forall₂_eq_eq_eq ▸ same

theorem map_subpackage_subs
    (h : List.Forall₂ (fun e c => e.2.IsClient api normal e.1 c) entries subs) :
    subs.map Client.subpackage = entries.map fun e => some e.1 := by
  have same : List.Forall₂ Eq (subs.map Client.subpackage) (entries.map fun e => some e.1) := by
    rw [List.forall₂_map_left_iff, List.forall₂_map_right_iff]
    exact (h.imp fun e c made => made.subpackage).flip
  exact List.forall₂_eq_eq_eq ▸ same

/-- Nothing has two clients, as subpackages have different identifiers and the root package has
none. -/
theorem nodup_map_subpackage
    (root : List.Forall₂ (fun root c => root.IsClient api c) api.rootPackage.toList roots)
    (sub : List.Forall₂ (fun e c => e.2.IsClient api normal e.1 c) entries subs)
    (keys : (entries.map Prod.fst).Nodup) : ((roots ++ subs).map Client.subpackage).Nodup := by
  rw [List.map_append, map_subpackage_roots root, map_subpackage_subs sub, List.nodup_append]
  refine ⟨?_, ?_, ?_⟩
  · cases api.rootPackage <;> simp
  · have ids : ((entries.map Prod.fst).map some).Nodup :=
      List.Pairwise.map some (fun _ _ ne same => ne (Option.some.inj same)) keys
    rwa [List.map_map] at ids
  · intro a ha b hb same
    obtain ⟨-, -, rfl⟩ := List.mem_map.1 ha
    obtain ⟨e, -, rfl⟩ := List.mem_map.1 hb
    exact absurd same (by simp)

/-- Whatever a client lists has endpoints in its tree. -/
theorem hasEndpoints_of_mem_children
    (root : List.Forall₂ (fun root c => root.IsClient api c) api.rootPackage.toList roots)
    (sub : List.Forall₂ (fun e c => e.2.IsClient api normal e.1 c) entries subs) :
    ∀ c ∈ roots ++ subs, ∀ child ∈ c.children, api.hasEndpoints child = true := by
  have listing : ∀ c ∈ roots ++ subs,
      ∃ declared : List SubpackageId, c.children = declared.filter api.hasEndpoints :=
    List.forall_mem_append.2
      ⟨forall_mem_of_forall₂ (fun _ _ made => ⟨_, made.children⟩) root,
        forall_mem_of_forall₂ (fun _ _ made => ⟨_, made.children⟩) sub⟩
  intro c hc child listed
  obtain ⟨declared, children⟩ := listing c hc
  rw [children] at listed
  exact (List.mem_filter.1 listed).2

end Identity

/-- **The client tree.** The root package has a client, each subpackage that owns a service or has a
child with endpoints has one, in order, and nothing has two. Clients list the children with
endpoints. The target of a client follows the normal form of the API, but for that of the root
package. If flags are founded, every child that is listed has a client. -/
theorem placeClients_isClient (normal : NormalTree.ofApi api = .ok tree)
    (placed : api.placeClients tree = .ok clients) :
    (∃ roots subs, clients = roots ++ subs ∧
      List.Forall₂ (fun root c => root.IsClient api c) api.rootPackage.toList roots ∧
      List.Forall₂ (fun e c => e.2.IsClient api (tree.apply api) e.1 c)
        (api.subpackages.entries.filter fun e => e.2.needsClient api) subs) ∧
    (clients.map Client.subpackage).Nodup ∧
    (api.FlagsFounded → ∀ c ∈ clients, ∀ child ∈ c.children,
      ∃ own ∈ clients, own.subpackage = some child) := by
  obtain ⟨roots, subs, hroots, hsubs, rfl⟩ := Api.placeClients_eq_ok placed
  have root := Api.forall₂_rootClients hroots
  have sub := Api.forall₂_subpackageClients normal hsubs
  have keys := api.subpackages.nodup.sublist
    (List.filter_sublist (p := fun e => e.2.needsClient api) |>.map Prod.fst)
  refine ⟨⟨roots, subs, rfl, root, sub⟩, nodup_map_subpackage root sub keys, ?_⟩
  -- A child is listed for its flag, and a flag that is founded makes for a client.
  intro founded c hc child listed
  have flagged := hasEndpoints_of_mem_children root sub c hc child listed
  obtain ⟨p, hp, flag⟩ := (Option.any_eq_true ..).1 flagged
  have needs := Subpackage.needsClient_iff.2 (founded child p hp flag)
  have there : some child ∈ subs.map Client.subpackage := by
    rw [map_subpackage_subs sub]
    exact List.mem_map.2 ⟨(child, p), List.mem_filter.2 ⟨Table.get?_eq_some_iff.1 hp, needs⟩, rfl⟩
  obtain ⟨own, hown, same⟩ := List.mem_map.1 there
  exact ⟨own, List.mem_append_right _ hown, same⟩

/-- An API with a nested root `config`, whose child owns a service, and a subpackage without
endpoints. -/
def configApi : Api :=
  Api.empty (.ofIdentifier "acme")
    |>.addService "service_config" (.ofIdentifiers [] (some "config")) []
    |>.addService "service_flags" (.ofIdentifiers ["config"] (some "flags")) []
    |>.addSubpackage "config" (.ofIdentifiers [] (some "config")) (some "service_config") ["flags"]
    |>.addSubpackage "flags" (.ofIdentifiers ["config"] (some "flags")) (some "service_flags") []
    |>.addSubpackage "empty" (.ofIdentifiers ["empty"] none) none []
    |>.setRootPackage none ["config", "empty"]

theorem placeClients_isClient_configApi :
    ∃ tree clients, NormalTree.ofApi configApi = .ok tree ∧
      configApi.placeClients tree = .ok clients ∧
      clients.map (fun c => (c.target.filename, c.children)) =
        [("client/client.go", [⟨"config"⟩]), ("config/client/client.go", [⟨"flags"⟩]),
          ("config/flags/client.go", [])] ∧
      (∃ roots subs, clients = roots ++ subs ∧
        List.Forall₂ (fun root c => root.IsClient configApi c) configApi.rootPackage.toList roots ∧
        List.Forall₂ (fun e c => e.2.IsClient configApi (tree.apply configApi) e.1 c)
          (configApi.subpackages.entries.filter fun e => e.2.needsClient configApi) subs) ∧
      (clients.map Client.subpackage).Nodup ∧
      ∀ c ∈ clients, ∀ child ∈ c.children, ∃ own ∈ clients, own.subpackage = some child := by
  obtain ⟨tree, clients, normal, placed, shown⟩ : ∃ tree clients,
      NormalTree.ofApi configApi = .ok tree ∧ configApi.placeClients tree = .ok clients ∧
      clients.map (fun c => (c.target.filename, c.children)) =
        [("client/client.go", [⟨"config"⟩]), ("config/client/client.go", [⟨"flags"⟩]),
          ("config/flags/client.go", [])] := ⟨_, _, rfl, rfl, by decide +kernel⟩
  -- The only flags are those of subpackages with a service.
  have founded : configApi.FlagsFounded := by
    intro id p hp flag
    have all : ∀ e ∈ configApi.subpackages.entries, e.2.hasEndpointsInTree = true →
        e.2.service ≠ none := by decide +kernel
    exact .inl (all (id, p) (Table.get?_eq_some_iff.1 hp) flag)
  obtain ⟨made, nodup, closed⟩ := placeClients_isClient normal placed
  exact ⟨tree, clients, normal, placed, shown, made, nodup, closed founded⟩

/-- An API whose root package owns a service in a package of its own. -/
def rootServiceApi : Api :=
  Api.empty (.ofIdentifier "acme")
    |>.addService "service_" (.ofIdentifiers ["api"] none) []
    |>.setRootPackage (some "service_") []

/-- The client of the root package need not be where its service is. -/
theorem rootServiceApi_clientTarget :
    ∃ tree clients, NormalTree.ofApi rootServiceApi = .ok tree ∧
      rootServiceApi.placeClients tree = .ok clients ∧ ∃ c ∈ clients, ∃ service s,
        c.service = some service ∧ (tree.apply rootServiceApi).services.get? service = some s ∧
        c.target ≠ s.path.clientTarget := by
  refine ⟨_, _, rfl, rfl, _, List.mem_cons_self .., ⟨"service_"⟩, _, rfl, rfl, ?_⟩
  decide +kernel

end SdkLayout
