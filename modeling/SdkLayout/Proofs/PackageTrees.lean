import Mathlib.Data.List.Forall2
import SdkLayout.Placement.Packages

/-!
# Package trees and clients

The package tree in normal form is made of the services and subpackages of an API, and the clients
of these and the root package (`NormalTree.ofApi_congr`, `Api.placeClients_congr`). They are the
same for an API and for what becomes of it when types move.

Nothing can go wrong but look-ups, and where the package tree is closed, so that every service and
every child that a package names is there, none does (`NormalTree.exists_ofApi`,
`Api.exists_placeClients`).
-/

namespace SdkLayout

/-! ### What they depend on -/

section Congruence

variable {a b : Api}

namespace NormalTree

theorem demotedService_congr (services : a.services = b.services) (id : SubpackageId)
    (p : Subpackage) : demotedService a id p = demotedService b id p := by
  rw [demotedService, demotedService, services]

theorem demotedServices_congr (services : a.services = b.services)
    (entries : List (SubpackageId × Subpackage)) :
    demotedServices a entries = demotedServices b entries := by
  induction entries with
  | nil => rfl
  | cons e rest ih =>
    rw [demotedServices, demotedServices, demotedService_congr services, ih]

theorem ofApi_congr (services : a.services = b.services)
    (subpackages : a.subpackages = b.subpackages) : ofApi a = ofApi b := by
  rw [ofApi, ofApi, subpackages, demotedServices_congr services]

theorem servicePath?_congr (tree : NormalTree) (services : a.services = b.services) :
    tree.servicePath? a = tree.servicePath? b := by
  funext id
  rw [servicePath?, servicePath?, services]

end NormalTree

namespace Api

theorem childrenWithEndpoints_congr (subpackages : a.subpackages = b.subpackages)
    (referrer : String) (children : List SubpackageId) :
    a.childrenWithEndpoints referrer children = b.childrenWithEndpoints referrer children := by
  induction children with
  | nil => rfl
  | cons child rest ih => rw [childrenWithEndpoints, childrenWithEndpoints, subpackages, ih]

theorem rootClients_congr (root : a.rootPackage = b.rootPackage)
    (subpackages : a.subpackages = b.subpackages) : a.rootClients = b.rootClients := by
  have client : a.rootClient = b.rootClient := by
    funext p
    rw [rootClient, rootClient, childrenWithEndpoints_congr subpackages]
  rw [rootClients, rootClients, root, client]

theorem subpackageClients_congr (services : a.services = b.services)
    (subpackages : a.subpackages = b.subpackages) (tree : NormalTree)
    (entries : List (SubpackageId × NormalSubpackage)) :
    a.subpackageClients tree entries = b.subpackageClients tree entries := by
  have path : a.clientPath tree = b.clientPath tree := by
    funext referrer p
    rw [clientPath, clientPath, tree.servicePath?_congr services]
  have client : a.subpackageClient tree = b.subpackageClient tree := by
    funext id p
    rw [subpackageClient, subpackageClient, childrenWithEndpoints_congr subpackages, path]
  induction entries with
  | nil => rfl
  | cons e rest ih => rw [subpackageClients, subpackageClients, client, ih]

theorem placeClients_congr (root : a.rootPackage = b.rootPackage)
    (services : a.services = b.services) (subpackages : a.subpackages = b.subpackages)
    (tree : NormalTree) : a.placeClients tree = b.placeClients tree := by
  rw [placeClients, placeClients, rootClients_congr root subpackages,
    subpackageClients_congr services subpackages]

end Api

end Congruence

/-! ### Closed package trees -/

/-- Every service and every child that a package names is there. -/
structure Api.TreeClosed (api : Api) : Prop where
  rootChildren : ∀ root, api.rootPackage = some root → ∀ c ∈ root.children, c ∈ api.subpackages.keys
  services : ∀ id p, api.subpackages.get? id = some p →
    ∀ s, p.service = some s → s ∈ api.services.keys
  children : ∀ id p, api.subpackages.get? id = some p →
    ∀ c ∈ p.children, c ∈ api.subpackages.keys

section Closed

variable {api : Api}

namespace NormalTree

theorem exists_demotedService {p : Subpackage}
    (known : ∀ s, p.service = some s → s ∈ api.services.keys) (id : SubpackageId) :
    ∃ own, demotedService api id p = .ok own := by
  unfold demotedService
  split
  · next service _ owned =>
    obtain ⟨s, hs⟩ := Table.mem_keys_iff.1 (known service owned)
    rw [hs]
    exact ⟨_, rfl⟩
  · exact ⟨_, rfl⟩

theorem exists_demotedServices {entries : List (SubpackageId × Subpackage)}
    (known : ∀ e ∈ entries, ∀ s, e.2.service = some s → s ∈ api.services.keys) :
    ∃ paths, demotedServices api entries = .ok paths := by
  induction entries with
  | nil => exact ⟨_, rfl⟩
  | cons e rest ih =>
    obtain ⟨he, hrest⟩ := List.forall_mem_cons.1 known
    obtain ⟨own, hown⟩ := exists_demotedService he e.1
    obtain ⟨more, hmore⟩ := ih hrest
    exact ⟨own.toList ++ more, by rw [demotedServices, hown, hmore]⟩

/-- A package tree that is closed has a normal form, with the same subpackages. -/
theorem exists_ofApi (closed : api.TreeClosed) :
    ∃ tree, ofApi api = .ok tree ∧
      tree.subpackages = api.subpackages.mapEntries fun _ p => p.normalize := by
  obtain ⟨paths, hpaths⟩ := exists_demotedServices fun e he =>
    closed.services e.1 e.2 (Table.get?_eq_some_iff.2 he)
  exact ⟨_, by rw [ofApi, hpaths], rfl⟩

theorem exists_servicePath? (tree : NormalTree) {id : ServiceId} (known : id ∈ api.services.keys) :
    ∃ path, tree.servicePath? api id = some path := by
  unfold servicePath?
  split
  · exact ⟨_, rfl⟩
  · obtain ⟨s, hs⟩ := Table.mem_keys_iff.1 known
    exact ⟨s.path, by rw [hs, Option.map_some]⟩

end NormalTree

namespace Api

theorem exists_childrenWithEndpoints {children : List SubpackageId}
    (known : ∀ c ∈ children, c ∈ api.subpackages.keys) (referrer : String) :
    ∃ out, api.childrenWithEndpoints referrer children = .ok out := by
  induction children with
  | nil => exact ⟨_, rfl⟩
  | cons child rest ih =>
    obtain ⟨hchild, hrest⟩ := List.forall_mem_cons.1 known
    obtain ⟨p, hp⟩ := Table.mem_keys_iff.1 hchild
    obtain ⟨more, hmore⟩ := ih hrest
    rw [childrenWithEndpoints, hp, hmore]
    exact ⟨_, rfl⟩

theorem exists_rootClients (closed : api.TreeClosed) :
    ∃ clients, api.rootClients = .ok clients := by
  unfold rootClients
  split
  · exact ⟨_, rfl⟩
  · next root hroot =>
    obtain ⟨children, hchildren⟩ :=
      exists_childrenWithEndpoints (closed.rootChildren root hroot) "root package"
    rw [rootClient, hchildren]
    exact ⟨_, rfl⟩

theorem exists_subpackageClient {p : NormalSubpackage}
    (services : ∀ s, p.subpackage.service = some s → s ∈ api.services.keys)
    (children : ∀ c ∈ p.subpackage.children, c ∈ api.subpackages.keys) (tree : NormalTree)
    (id : SubpackageId) : ∃ client, api.subpackageClient tree id p = .ok client := by
  obtain ⟨out, hout⟩ :=
    exists_childrenWithEndpoints children ("subpackage '" ++ id.text ++ "'")
  -- Only the path of a service has to be looked up.
  have path : ∃ path, api.clientPath tree ("subpackage '" ++ id.text ++ "'") p = .ok path := by
    unfold clientPath
    split
    · exact ⟨_, rfl⟩
    · next service owned =>
      obtain ⟨path, hpath⟩ := tree.exists_servicePath? (services service owned)
      rw [hpath]
      exact ⟨_, rfl⟩
  obtain ⟨path, hpath⟩ := path
  simp only [subpackageClient, hout, hpath]
  split
  · exact ⟨_, rfl⟩
  · exact ⟨_, rfl⟩

theorem exists_subpackageClients (tree : NormalTree)
    {entries : List (SubpackageId × NormalSubpackage)}
    (services : ∀ e ∈ entries, ∀ s, e.2.subpackage.service = some s → s ∈ api.services.keys)
    (children : ∀ e ∈ entries, ∀ c ∈ e.2.subpackage.children, c ∈ api.subpackages.keys) :
    ∃ clients, api.subpackageClients tree entries = .ok clients := by
  induction entries with
  | nil => exact ⟨_, rfl⟩
  | cons e rest ih =>
    obtain ⟨hs, hrest⟩ := List.forall_mem_cons.1 services
    obtain ⟨hc, hrest'⟩ := List.forall_mem_cons.1 children
    obtain ⟨own, hown⟩ := exists_subpackageClient hs hc tree e.1
    obtain ⟨more, hmore⟩ := ih hrest hrest'
    exact ⟨own.toList ++ more, by rw [subpackageClients, hown, hmore]⟩

/-- Where the package tree is closed, every client has a place. -/
theorem exists_placeClients (closed : api.TreeClosed) {tree : NormalTree}
    (normal : tree.subpackages = api.subpackages.mapEntries fun _ p => p.normalize) :
    ∃ clients, api.placeClients tree = .ok clients := by
  -- Subpackages are normalized, but own and contain what they did before.
  have entry : ∀ e ∈ tree.subpackages.entries,
      ∃ p, api.subpackages.get? e.1 = some p ∧ e.2 = p.normalize := by
    intro e he
    rw [normal, Table.entries_mapEntries] at he
    obtain ⟨d, hd, rfl⟩ := List.mem_map.1 he
    exact ⟨d.2, Table.get?_eq_some_iff.2 hd, rfl⟩
  obtain ⟨root, hroot⟩ := exists_rootClients closed
  obtain ⟨clients, hclients⟩ : ∃ clients,
      api.subpackageClients tree tree.subpackages.entries = .ok clients := by
    refine exists_subpackageClients tree (fun e he s hs => ?_) fun e he c hc => ?_
    · obtain ⟨p, hp, normalized⟩ := entry e he
      exact closed.services e.1 p hp s (by rwa [normalized, p.service_normalize] at hs)
    · obtain ⟨p, hp, normalized⟩ := entry e he
      exact closed.children e.1 p hp c (by rwa [normalized, p.children_normalize] at hc)
  exact ⟨root ++ clients, by rw [placeClients, hroot, hclients]⟩

end Api

end Closed

/-! ### What clients are made of -/

/-- What holds of everything that is related to something holds along a list. -/
theorem forall_mem_of_forall₂ {α β : Type} {R : α → β → Prop} {P : β → Prop}
    (related : ∀ a b, R a b → P b) {as : List α} {bs : List β} (h : List.Forall₂ R as bs) :
    ∀ b ∈ bs, P b := by
  induction h with
  | nil => exact fun b hb => absurd hb (by simp)
  | cons hab _ ih => exact List.forall_mem_cons.2 ⟨related _ _ hab, ih⟩

/-- A subpackage is there and has endpoints in its tree. -/
def Api.hasEndpoints (api : Api) (id : SubpackageId) : Bool :=
  (api.subpackages.get? id).any Subpackage.hasEndpointsInTree

/-- A subpackage is to have a client: it owns a service or has a child with endpoints. -/
def Subpackage.needsClient (api : Api) (p : Subpackage) : Bool :=
  p.service.isSome || p.children.any api.hasEndpoints

namespace Api

variable {api : Api} {tree : NormalTree} {clients : List Client}

/-- The children with endpoints are found if all children are there. -/
theorem childrenWithEndpoints_eq_ok {referrer : String} {children out : List SubpackageId}
    (h : api.childrenWithEndpoints referrer children = .ok out) :
    out = children.filter api.hasEndpoints := by
  induction children generalizing out with
  | nil => exact (Except.ok.inj h).symm
  | cons child rest ih =>
    rw [childrenWithEndpoints] at h
    split at h
    · exact absurd h (by simp)
    next p hp =>
    split at h
    · exact absurd h (by simp)
    next more hmore =>
    have flag : api.hasEndpoints child = p.hasEndpointsInTree := by
      rw [hasEndpoints, hp, Option.any_some]
    rw [List.filter_cons, flag, ← ih hmore]
    exact (Except.ok.inj h).symm

/-- The root package has a client at its own path, whether it owns a service or not. -/
theorem rootClients_eq_ok (h : api.rootClients = .ok clients) :
    clients = api.rootPackage.toList.map fun root =>
      { target := root.path.clientTarget
        subpackage := none
        service := root.service
        declaredPath := root.path
        children := root.children.filter api.hasEndpoints } := by
  unfold rootClients at h
  split at h
  · next absent =>
    rw [absent]
    exact (Except.ok.inj h).symm
  next root hroot =>
  unfold rootClient at h
  split at h
  · exact absurd h (by simp)
  next client hclient =>
  split at hclient
  · exact absurd hclient (by simp)
  next children hchildren =>
  rw [hroot, ← Except.ok.inj h, ← Except.ok.inj hclient, childrenWithEndpoints_eq_ok hchildren]
  rfl

/-- A subpackage has a client if it is to have one, at the path that is found for it. -/
theorem subpackageClient_eq_ok {id : SubpackageId} {p : NormalSubpackage} {own : Option Client}
    (h : api.subpackageClient tree id p = .ok own) :
    own.isSome = p.subpackage.needsClient api ∧
      ∀ c ∈ own, ∃ referrer path, api.clientPath tree referrer p = .ok path ∧ c =
        { target := path.clientTarget
          subpackage := some id
          service := p.subpackage.service
          declaredPath := p.declaredPath
          children := p.subpackage.children.filter api.hasEndpoints } := by
  simp only [subpackageClient] at h
  split at h
  · exact absurd h (by simp)
  next children hchildren =>
  obtain rfl := childrenWithEndpoints_eq_ok hchildren
  -- What decides is whether the filtered list is empty, that is, whether no child has endpoints.
  have needs : p.subpackage.needsClient api = !(p.subpackage.service.isNone &&
      (p.subpackage.children.filter api.hasEndpoints).isEmpty) := by
    rw [Subpackage.needsClient, Bool.not_and, Option.not_isNone]
    congr 1
    rw [Bool.eq_iff_iff]
    simp
  rw [needs]
  split at h
  -- A subpackage that needs no client has none, whatever its path is.
  · next needless =>
    obtain rfl := Except.ok.inj h
    exact ⟨by rw [needless]; rfl, fun c hc => absurd hc (by simp)⟩
  next needed =>
  split at h
  · exact absurd h (by simp)
  next path hpath =>
  obtain rfl := Except.ok.inj h
  refine ⟨by rw [Bool.eq_false_iff.2 needed]; rfl, fun c hc => ⟨_, path, hpath, ?_⟩⟩
  exact (Option.some.inj hc).symm

/-- The subpackages that are to have clients have one each, in their order. -/
theorem subpackageClients_eq_ok {entries : List (SubpackageId × NormalSubpackage)}
    (h : api.subpackageClients tree entries = .ok clients) :
    List.Forall₂ (fun e c => api.subpackageClient tree e.1 e.2 = .ok (some c))
      (entries.filter fun e => e.2.subpackage.needsClient api) clients := by
  induction entries generalizing clients with
  | nil =>
    obtain rfl := Except.ok.inj h
    exact .nil
  | cons e rest ih =>
    rw [subpackageClients] at h
    split at h
    · exact absurd h (by simp)
    next own hown =>
    split at h
    · exact absurd h (by simp)
    next more hmore =>
    obtain rfl := Except.ok.inj h
    obtain ⟨needs, -⟩ := subpackageClient_eq_ok hown
    -- The entry makes a client if and only if the filter keeps it.
    cases own with
    | none =>
      rw [List.filter_cons_of_neg (by rw [← needs]; exact Bool.false_ne_true)]
      exact ih hmore
    | some c =>
      rw [List.filter_cons_of_pos (by exact needs.symm)]
      exact .cons hown (ih hmore)

theorem placeClients_eq_ok (h : api.placeClients tree = .ok clients) :
    ∃ roots subs, api.rootClients = .ok roots ∧
      api.subpackageClients tree tree.subpackages.entries = .ok subs ∧ clients = roots ++ subs := by
  unfold placeClients at h
  split at h
  · exact absurd h (by simp)
  next roots hroots =>
  split at h
  · exact absurd h (by simp)
  next subs hsubs => exact ⟨roots, subs, hroots, hsubs, (Except.ok.inj h).symm⟩

/-- A client has a directory of its own in the package of some path. -/
theorem clientTarget_of_mem_placeClients (h : api.placeClients tree = .ok clients) :
    ∀ c ∈ clients, ∃ path : DeclarationPath, c.target = path.clientTarget := by
  obtain ⟨roots, subs, hroots, hsubs, rfl⟩ := placeClients_eq_ok h
  intro c hc
  rcases List.mem_append.1 hc with hc | hc
  · rw [rootClients_eq_ok hroots] at hc
    obtain ⟨root, -, rfl⟩ := List.mem_map.1 hc
    exact ⟨root.path, rfl⟩
  -- The path of a subpackage's client is that of its service or its own; here either will do.
  · have made : ∀ (e : SubpackageId × NormalSubpackage) (c : Client),
        api.subpackageClient tree e.1 e.2 = .ok (some c) →
          ∃ path : DeclarationPath, c.target = path.clientTarget := by
      intro e c own
      obtain ⟨-, path, -, rfl⟩ := (subpackageClient_eq_ok own).2 c rfl
      exact ⟨path, rfl⟩
    exact forall_mem_of_forall₂ made (subpackageClients_eq_ok hsubs) c hc

end Api

end SdkLayout
