import SdkLayout.Api.Builder
import SdkLayout.Proofs.PlacedFiles

/-!
# Nothing is lost, nothing is placed twice

The files of a plan declare every type of the API once, and the inlined requests and the errors as
the mode asks for them (`Plan.Complete`); every section is in good order (`Tidy`). Both hold of
every plan (`Plan.build_complete`), whatever the strategy and whatever services are said to use: a
type may be listed for several services, repeatedly or not at all.

The types come from the list of targets, which has every type once (`Api.typeTargets_keys`), and
gathering files rearranges but never drops or repeats (`contents_gatherFiles_perm`).
-/

namespace SdkLayout

/-! ### What the files declare -/

/-- A section in good order: no file is empty, the targets ascend strictly, and the contents of
every file ascend by key. -/
structure Tidy {α : Type} (key : α → String) (files : List (FileOf α)) : Prop where
  nonempty : ∀ f ∈ files, f.contents ≠ []
  ascending : (files.map FileOf.target).Pairwise Target.Precedes
  sorted : ∀ f ∈ files, f.contents.Pairwise fun a b => key a ≤ key b

theorem Tidy.nil {α : Type} (key : α → String) : Tidy key [] where
  nonempty := by simp
  ascending := List.Pairwise.nil
  sorted := by simp

theorem tidy_gatherFiles {α : Type} {le : α → α → Bool} {key : α → String}
    (hle : ∀ a b, le a b = true ↔ key a ≤ key b) (assignments : List (Target × α)) :
    Tidy key (gatherFiles le assignments) where
  nonempty _ hf := contents_ne_nil hf
  ascending := targets_gatherFiles
  sorted _ hf := contents_sorted hle hf

theorem Placed.le_iff (a b : Placed) : Placed.le a b = true ↔ a.key ≤ b.key := by
  rw [Placed.le, stringLe, decide_eq_true_eq]

namespace Api

variable {api : Api} {includeRequests : Bool} {files : List (FileOf Placed)}

theorem tidy_placeFiles (h : api.placeFiles includeRequests = .ok files) :
    Tidy Placed.key files := by
  obtain ⟨targets, -, rfl⟩ := placeFiles_eq_ok h
  exact tidy_gatherFiles Placed.le_iff _

/-- The declared types are the types of the API. -/
theorem types_placeFiles_perm (h : api.placeFiles includeRequests = .ok files) :
    ((files.flatMap FileOf.contents).filterMap Placed.type?).Perm api.types.keys := by
  obtain ⟨targets, ht, perm⟩ := declarations_placeFiles_perm h
  have types := perm.filterMap Placed.type?
  rw [List.filterMap_append, List.filterMap_map, List.filterMap_map] at types
  -- Requests declare no type.
  have requests : (Placed.type? ∘ fun r : ServiceId × String => .request r.1 r.2) =
      fun _ => none := rfl
  have targets' : (Placed.type? ∘ fun t : TypeId × Target => .type t.1) =
      fun t => some t.1 := rfl
  rw [requests, targets', List.filterMap_none, List.nil_append, List.filterMap_eq_map'] at types
  exact types.trans (typeTargets_keys ht)

/-- The declared requests are the inlined requests of the API, if requests are placed at all. -/
theorem requests_placeFiles_perm (h : api.placeFiles includeRequests = .ok files) :
    ((files.flatMap FileOf.contents).filterMap Placed.request?).Perm
      (if includeRequests then api.inlinedRequests else []) := by
  obtain ⟨targets, -, perm⟩ := declarations_placeFiles_perm h
  have requests := perm.filterMap Placed.request?
  rw [List.filterMap_append, List.filterMap_map, List.filterMap_map] at requests
  have same : (Placed.request? ∘ fun r : ServiceId × String => .request r.1 r.2) = some := rfl
  have types : (Placed.request? ∘ fun t : TypeId × Target => .type t.1) = fun _ => none := rfl
  -- Types declare no request, and of a request nothing is forgotten.
  rw [same, types, List.filterMap_none, List.append_nil, List.filterMap_some] at requests
  exact requests

theorem tidy_placeErrors (api : Api) : Tidy Id.text api.placeErrors :=
  tidy_gatherFiles Id.le_iff _

/-- The errors that the files declare are the errors of the API. -/
theorem errors_placeErrors_perm (api : Api) :
    (api.placeErrors.flatMap FileOf.contents).Perm api.errors.keys := by
  have perm := contents_gatherFiles_perm Id.le (api.errors.entries.map fun e =>
    (e.2.path.targetInPackage api.rootPackageName errorsFilename, e.1))
  rw [List.map_map] at perm
  exact perm

end Api

/-! ### Plans -/

namespace Plan

/-- The types that a plan declares, file by file. -/
def placedTypes (p : Plan) : List TypeId :=
  (p.files.flatMap FileOf.contents).filterMap Placed.type?

/-- The requests that a plan declares, file by file. -/
def placedRequests (p : Plan) : List (ServiceId × String) :=
  (p.files.flatMap FileOf.contents).filterMap Placed.request?

/-- The errors that a plan declares, file by file. -/
def placedErrors (p : Plan) : List ErrorId :=
  p.errors.flatMap FileOf.contents

/-- A plan declares what the mode asks for, and that once. -/
structure Complete (config : Config) (api : Api) (p : Plan) : Prop where
  /-- Every type of the API once, and no other. -/
  types : ∀ id, p.placedTypes.count id = if id ∈ api.types.keys then 1 else 0
  /-- The inlined requests of all endpoints, in every mode but `model`. -/
  requests : p.placedRequests.Perm (if config.mode = .model then [] else api.inlinedRequests)
  /-- Every error of the API once, and no other, if there are clients; else none. -/
  errors : ∀ id, p.placedErrors.count id =
    if config.mode = .client ∧ id ∈ api.errors.keys then 1 else 0

variable {config : Config} {api : Api} {registry : Registry} {tree : NormalTree} {p : Plan}

/-- **Nothing is lost, nothing is placed twice.** Every plan is complete, and its files of types and
requests and its files of errors are in good order. -/
theorem build_complete (h : Plan.build config api registry tree = .ok p) :
    p.Complete config api ∧ Tidy Placed.key p.files ∧ Tidy Id.text p.errors := by
  obtain ⟨hfiles, herrors⟩ := Plan.build_eq_ok h
  refine ⟨⟨?types, ?requests, ?errors⟩, Api.tidy_placeFiles hfiles, ?tidy⟩
  case types =>
    intro id
    rw [placedTypes, (Api.types_placeFiles_perm hfiles).count_eq, api.types.nodup_keys.count]
  case requests =>
    have perm := Api.requests_placeFiles_perm hfiles
    by_cases hm : config.mode = .model
    · rw [if_neg fun h => Mode.placesRequests_iff.1 h hm] at perm
      rwa [if_pos hm]
    · rw [if_pos (Mode.placesRequests_iff.2 hm)] at perm
      rwa [if_neg hm]
  case errors =>
    intro id
    rw [placedErrors, herrors]
    by_cases hm : config.mode = .client
    · rw [if_pos (Mode.placesClient_iff.2 hm), (Api.errors_placeErrors_perm api).count_eq,
        api.errors.nodup_keys.count]
      simp only [hm, true_and]
    -- Without clients there are no files of errors.
    · rw [if_neg fun h => hm (Mode.placesClient_iff.1 h), if_neg fun h => hm h.1]
      rfl
  case tidy =>
    rw [herrors]
    split
    · exact api.tidy_placeErrors
    · exact Tidy.nil Id.text

/-- An API of which a service is said to use a type twice, another type that is shared as well, and
one that lies elsewhere; nobody is said to use `Loose`. -/
def overlappingApi : Api :=
  Api.empty (.ofIdentifier "acme")
    |>.addObject "Id" (.ofIdentifiers ["common"] none) []
    |>.addObject "User" (.ofIdentifiers ["users"] none) ["Id"]
    |>.addObject "Org" (.ofIdentifiers ["orgs"] none) []
    |>.addObject "Loose" .root []
    |>.addError "NotFound" (.ofIdentifiers ["users"] none) none
    |>.addService "service_users" (.ofIdentifiers ["users"] (some "userService"))
      [.withWrapper "create", .withWrapper "update", .withBody "replace" "User"]
    |>.setTypeUsage ["Id"] [("service_users", ["User", "Org", "User", "Id"])]

theorem build_complete_overlappingApi :
    ∃ p, Plan.build .default overlappingApi (.ofApi overlappingApi) ⟨.empty, .empty⟩ = .ok p ∧
      p.Complete .default overlappingApi ∧ Tidy Placed.key p.files ∧ Tidy Id.text p.errors := by
  obtain ⟨p, hp⟩ : ∃ p, Plan.build .default overlappingApi (.ofApi overlappingApi)
      ⟨.empty, .empty⟩ = .ok p := ⟨_, rfl⟩
  exact ⟨p, hp, build_complete hp⟩

end Plan

end SdkLayout
