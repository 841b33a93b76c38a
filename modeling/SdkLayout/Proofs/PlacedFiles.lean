import SdkLayout.Plan
import SdkLayout.Proofs.GatheredFiles
import SdkLayout.Proofs.TypeTargets

/-!
# The declarations in placed files

What a file declares, it was assigned: a type one of its admitted targets (`Api.Targets`), a request
the file of its service. All in all the files declare the types that have targets, and, if requests
are placed, all inlined requests (`declarations_placeFiles_perm`).
-/

namespace SdkLayout

namespace Placed

/-- The type that is declared. -/
def type? : Placed → Option TypeId
  | .type id => some id
  | .request _ _ => none

/-- The endpoint whose request is declared, with its service. -/
def request? : Placed → Option (ServiceId × String)
  | .type _ => none
  | .request service endpoint => some (service, endpoint)

end Placed

namespace Api

/-- The endpoints whose requests the SDK declares, by service and name. -/
def inlinedRequests (api : Api) : List (ServiceId × String) :=
  api.services.entries.flatMap fun e =>
    (e.2.endpoints.filter Endpoint.hasInlinedRequest).map fun p => (e.1, p.name.identifier)

variable {api : Api} {includeRequests : Bool} {files : List (FileOf Placed)}

theorem mem_requests {target : Target} {d : Placed} :
    (target, d) ∈ api.requests ↔
      ∃ id s, api.services.get? id = some s ∧ ∃ e ∈ s.endpoints, e.hasInlinedRequest = true ∧
        target = s.path.target api.rootPackageName ∧ d = .request id e.name.identifier := by
  rw [requests, List.mem_flatMap]
  constructor
  · rintro ⟨entry, hentry, hd⟩
    obtain ⟨e, he, heq⟩ := List.mem_map.1 hd
    obtain ⟨hmem, hinlined⟩ := List.mem_filter.1 he
    obtain ⟨rfl, rfl⟩ := Prod.mk.inj heq
    exact ⟨entry.1, entry.2, Table.get?_eq_some_iff.2 hentry, e, hmem, hinlined, rfl, rfl⟩
  · rintro ⟨id, s, hs, e, he, hinlined, rfl, rfl⟩
    exact ⟨(id, s), Table.get?_eq_some_iff.1 hs,
      List.mem_map.2 ⟨e, List.mem_filter.2 ⟨he, hinlined⟩, rfl⟩⟩

theorem map_snd_requests :
    api.requests.map Prod.snd = api.inlinedRequests.map fun r => .request r.1 r.2 := by
  simp only [requests, inlinedRequests, requestAssignments, List.map_flatMap, List.map_map,
    Function.comp_def]

/-- The assignments that placing gathers. -/
def assignments (api : Api) (includeRequests : Bool) (targets : List (TypeId × Target)) :
    List (Target × Placed) :=
  (if includeRequests then api.requests else []) ++ targets.map fun t => (t.2, .type t.1)

/-- A type is assigned to its target, and is not among the requests. -/
theorem type_mem_assignments {targets : List (TypeId × Target)} {target : Target} {id : TypeId} :
    (target, .type id) ∈ api.assignments includeRequests targets ↔ (id, target) ∈ targets := by
  rw [assignments, List.mem_append]
  constructor
  · rintro (hr | ht)
    -- Requests are no types.
    · split at hr
      · obtain ⟨_, _, -, _, -, -, -, hd⟩ := mem_requests.1 hr
        exact absurd hd (by simp)
      · exact absurd hr (by simp)
    · obtain ⟨p, hp, heq⟩ := List.mem_map.1 ht
      obtain ⟨rfl, htype⟩ := Prod.mk.inj heq
      obtain rfl := Placed.type.inj htype
      exact hp
  · intro hp
    exact .inr (List.mem_map.2 ⟨(id, target), hp, rfl⟩)

theorem placeFiles_eq_ok (h : api.placeFiles includeRequests = .ok files) :
    ∃ targets, api.typeTargets = .ok targets ∧
      files = gatherFiles Placed.le (api.assignments includeRequests targets) := by
  unfold placeFiles at h
  split at h
  · exact absurd h (by simp)
  · next targets ht => exact ⟨targets, ht, (Except.ok.inj h).symm⟩

theorem exists_placeFiles (usage : api.UsageKnown) (includeRequests : Bool) :
    ∃ files, api.placeFiles includeRequests = .ok files := by
  obtain ⟨targets, ht⟩ := exists_typeTargets usage
  exact ⟨_, by rw [placeFiles, ht]⟩

/-- A type is only placed where types of its kind may go. -/
theorem targets_of_mem_placeFiles (h : api.placeFiles includeRequests = .ok files)
    {f : FileOf Placed} (hf : f ∈ files) {id : TypeId} (hid : .type id ∈ f.contents) :
    api.Targets (id, f.target) := by
  obtain ⟨targets, ht, rfl⟩ := placeFiles_eq_ok h
  have assigned := (mem_contents_gatherFiles hf).1 hid
  exact typeTargets_targets ht (id, f.target) (type_mem_assignments.1 assigned)

/-- A request is only placed in the file of its service. -/
theorem service_of_mem_placeFiles (h : api.placeFiles includeRequests = .ok files)
    {f : FileOf Placed} (hf : f ∈ files) {id : ServiceId} {endpoint : String}
    (hid : .request id endpoint ∈ f.contents) :
    ∃ s, api.services.get? id = some s ∧ f.target = s.path.target api.rootPackageName := by
  obtain ⟨targets, ht, rfl⟩ := placeFiles_eq_ok h
  rcases List.mem_append.1 ((mem_contents_gatherFiles hf).1 hid) with hr | hmem
  · split at hr
    · obtain ⟨id', s, hs, e, -, -, htarget, hd⟩ := mem_requests.1 hr
      obtain ⟨rfl, -⟩ := Placed.request.inj hd
      exact ⟨s, hs, htarget⟩
    · exact absurd hr (by simp)
  -- A request is not among the types.
  · obtain ⟨p, -, heq⟩ := List.mem_map.1 hmem
    exact absurd (Prod.mk.inj heq).2 (by simp)

/-- If requests are placed, every inlined request is in the file of its service. -/
theorem exists_file_of_request (h : api.placeFiles true = .ok files) {id : ServiceId} {s : Service}
    (hs : api.services.get? id = some s) {e : Endpoint} (he : e ∈ s.endpoints)
    (inlined : e.hasInlinedRequest = true) :
    ∃ f ∈ files, .request id e.name.identifier ∈ f.contents ∧
      f.target = s.path.target api.rootPackageName := by
  obtain ⟨targets, -, rfl⟩ := placeFiles_eq_ok h
  refine exists_mem_gatherFiles.2 (List.mem_append_left _ ?_)
  rw [if_pos rfl]
  exact mem_requests.2 ⟨id, s, hs, e, he, inlined, rfl, rfl⟩

/-- Every type is placed. -/
theorem exists_file_of_mem_keys (h : api.placeFiles includeRequests = .ok files) {id : TypeId}
    (hid : id ∈ api.types.keys) : ∃ f ∈ files, .type id ∈ f.contents := by
  obtain ⟨targets, ht, rfl⟩ := placeFiles_eq_ok h
  obtain ⟨p, hp, rfl⟩ := List.mem_map.1 ((typeTargets_keys ht).mem_iff.2 hid)
  obtain ⟨f, hf, hid, -⟩ := exists_mem_gatherFiles.2 (type_mem_assignments.2 hp)
  exact ⟨f, hf, hid⟩

/-- Placing loses no declaration and repeats none. -/
theorem declarations_placeFiles_perm (h : api.placeFiles includeRequests = .ok files) :
    ∃ targets, api.typeTargets = .ok targets ∧
      (files.flatMap FileOf.contents).Perm
        ((if includeRequests then api.inlinedRequests else []).map (fun r => .request r.1 r.2)
          ++ targets.map fun t => .type t.1) := by
  obtain ⟨targets, ht, rfl⟩ := placeFiles_eq_ok h
  refine ⟨targets, ht, (contents_gatherFiles_perm ..).trans (List.Perm.of_eq ?_)⟩
  rw [assignments, List.map_append, List.map_map]
  congr 1
  split
  · exact map_snd_requests
  · rfl

end Api

/-! ### Plans -/

theorem Plan.build_eq_ok {config : Config} {api : Api} {registry : Registry} {tree : NormalTree}
    {plan : Plan} (h : Plan.build config api registry tree = .ok plan) :
    api.placeFiles config.mode.placesRequests = .ok plan.files ∧
      plan.errors = (if config.mode.placesClient then api.placeErrors else []) := by
  unfold Plan.build at h
  split at h
  · exact absurd h (by simp)
  next files hfiles =>
  split at h
  · exact absurd h (by simp)
  obtain rfl := Except.ok.inj h
  exact ⟨hfiles, rfl⟩

/-- The sections beside the declarations and the errors. -/
theorem Plan.sections_of_build {config : Config} {api : Api} {registry : Registry}
    {tree : NormalTree} {plan : Plan} (h : Plan.build config api registry tree = .ok plan) :
    plan.docs = api.placeDocs ∧
      (if config.mode.placesClient then api.placeClients tree else .ok []) = .ok plan.clients ∧
      plan.artifacts = placeArtifacts config api registry := by
  unfold Plan.build at h
  split at h
  · exact absurd h (by simp)
  split at h
  · exact absurd h (by simp)
  next clients hclients =>
  obtain rfl := Except.ok.inj h
  exact ⟨rfl, hclients, rfl⟩

end SdkLayout
