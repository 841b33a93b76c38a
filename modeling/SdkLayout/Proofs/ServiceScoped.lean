import Mathlib.Data.List.Nodup
import SdkLayout.Api.Builder
import SdkLayout.Proofs.Directories
import SdkLayout.Proofs.PlacedFiles

/-!
# Where types go when their usage is known

Service-scoped placement passes over the types four times: those that several services use, those of
the root service, those of each service in turn, and in the end all types. A type may be named in
any of these passes, and several times in one; the first time decides.

What comes out is a rule for each type by itself (`Api.ScopedTo`, `Api.placeFiles_scopedTo`). Only
the first service that claims a type counts. If its file lies in another directory than the type,
the type stays in the file of its package, even if a later service claims it whose file would do.
-/

namespace SdkLayout

/-! ### The rule -/

/-- A type is used by several services, or by the root service, which has no file of its own. -/
def TypeUsage.Unclaimable (u : TypeUsage) (id : TypeId) : Prop :=
  id ∈ u.shared ∨ ∃ types, u.onlyByService.get? rootServiceId = some types ∧ id ∈ types

/-- A service, other than the root service, is said to be the only one to use a type. -/
def claims (id : TypeId) (e : ServiceId × List TypeId) : Bool :=
  decide (e.1 ≠ rootServiceId ∧ id ∈ e.2)

/-- The first service that claims a type. -/
def TypeUsage.firstClaim? (u : TypeUsage) (id : TypeId) : Option ServiceId :=
  (u.onlyByService.entries.find? (claims id)).map Prod.fst

/-- The file that a type at a path goes to. -/
inductive Api.ScopedTo (api : Api) (u : TypeUsage) (id : TypeId) (path : DeclarationPath) :
    Target → Prop where
  | unclaimable : u.Unclaimable id → ScopedTo api u id path (path.packageFile api.rootPackageName)
  | unclaimed : ¬ u.Unclaimable id → u.firstClaim? id = none →
      ScopedTo api u id path (path.packageFile api.rootPackageName)
  /-- The first service that claims the type has a file in the directory of the type. -/
  | claimed {service : ServiceId} {s : Service} : ¬ u.Unclaimable id →
      u.firstClaim? id = some service → api.services.get? service = some s →
      (s.path.serviceTarget api.rootPackageName).directory = "/".intercalate path.dirs →
      ScopedTo api u id path (s.path.serviceTarget api.rootPackageName)
  /-- The first service that claims the type has a file elsewhere. -/
  | elsewhere {service : ServiceId} {s : Service} : ¬ u.Unclaimable id →
      u.firstClaim? id = some service → api.services.get? service = some s →
      (s.path.serviceTarget api.rootPackageName).directory ≠ "/".intercalate path.dirs →
      ScopedTo api u id path (path.packageFile api.rootPackageName)

theorem TypeUsage.mem_unscoped {u : TypeUsage} {id : TypeId} :
    id ∈ u.unscoped ↔ u.Unclaimable id := by
  rw [unscoped, List.mem_append, Unclaimable]
  cases u.onlyByService.get? rootServiceId with
  | none => simp
  | some types => simp

theorem DeclarationPath.directory_packageFile (path : DeclarationPath) (rootPackage : String) :
    (path.packageFile rootPackage).directory = "/".intercalate path.dirs :=
  Target.directory_inDirs _ _ (by decide)

namespace Api

variable {api : Api} {id : TypeId} {t : TypeDeclaration}

/-! ### The first target in each pass -/

/-- A pass gives a type that it names the target that it has for the type. -/
theorem find?_targetsOf_of_mem {target : TypeId → Except LayoutError Target} {ids : List TypeId}
    {out : List (TypeId × Target)} (h : targetsOf target ids = .ok out) {place : Target}
    (place_eq : target id = .ok place) (hid : id ∈ ids) :
    out.find? (fun p => decide (p.1 = id)) = some (id, place) := by
  obtain ⟨keys, places⟩ := targetsOf_eq_ok h
  rw [← keys] at hid
  obtain ⟨p, hp, same⟩ := List.mem_map.1 hid
  obtain ⟨first, found⟩ : ∃ first, out.find? (fun p => decide (p.1 = id)) = some first :=
    Option.isSome_iff_exists.1 (List.find?_isSome.2 ⟨p, hp, decide_eq_true same⟩)
  have key : first.1 = id := of_decide_eq_true (List.find?_some found :)
  have there := places first (List.mem_of_find?_eq_some found)
  rw [key, place_eq] at there
  rw [found, ← key, Except.ok.inj there]

theorem find?_targetsOf_of_not_mem {target : TypeId → Except LayoutError Target}
    {ids : List TypeId} {out : List (TypeId × Target)} (h : targetsOf target ids = .ok out)
    (hid : id ∉ ids) : out.find? (fun p => decide (p.1 = id)) = none := by
  rw [← (targetsOf_eq_ok h).1] at hid
  refine List.find?_eq_none.2 fun p hp same => hid ?_
  exact List.mem_map.2 ⟨p, hp, of_decide_eq_true same⟩

/-- A type that a service claims goes to the file of the service if that lies in the directory of
the type. -/
theorem scopedTarget_of_get? (ht : api.types.get? id = some t) (file : Target) :
    api.scopedTarget file id =
      .ok (if file.directory = "/".intercalate t.path.dirs then file
        else t.path.packageFile api.rootPackageName) := by
  rw [scopedTarget, packageTarget_of_get? ht]
  simp only [DeclarationPath.directory_packageFile, eq_comm]

/-- **The pass over the services.** A type has a target in it if a service claims it, and its first
target is due to the first of these services, which is one of the API. -/
theorem find?_scopedTargets (ht : api.types.get? id = some t)
    {usage : List (ServiceId × List TypeId)} {out : List (TypeId × Target)}
    (h : api.scopedTargets usage = .ok out) :
    (usage.find? (claims id) = none → out.find? (fun p => decide (p.1 = id)) = none) ∧
    ∀ e, usage.find? (claims id) = some e → ∃ s, api.services.get? e.1 = some s ∧
      out.find? (fun p => decide (p.1 = id)) =
        some (id, if (s.path.serviceTarget api.rootPackageName).directory =
            "/".intercalate t.path.dirs then s.path.serviceTarget api.rootPackageName
          else t.path.packageFile api.rootPackageName) := by
  induction usage generalizing out with
  | nil =>
    obtain rfl := Except.ok.inj h
    exact ⟨fun _ => rfl, fun e he => absurd he (by simp)⟩
  | cons e rest ih =>
    obtain ⟨root, h⟩ | ⟨other, s, own, more, hs, hown, hmore, rfl⟩ := scopedTargets_cons_eq_ok h
    · -- The root service claims nothing.
      have passed : ¬ claims id e = true := by simp [claims, root]
      rw [List.find?_cons_of_neg passed]
      exact ih h
    rw [List.find?_append]
    by_cases hid : id ∈ e.2
    · -- The first claim: whatever the services behind it say, this target comes first.
      have claimed : claims id e = true := decide_eq_true ⟨other, hid⟩
      have first := find?_targetsOf_of_mem hown (scopedTarget_of_get? ht _) hid
      rw [List.find?_cons_of_pos claimed, first, Option.some_or]
      refine ⟨fun none => absurd none (by simp), fun e' he' => ?_⟩
      obtain rfl := Option.some.inj he'
      exact ⟨s, hs, rfl⟩
    · have passed : ¬ claims id e = true := by simp [claims, hid]
      rw [List.find?_cons_of_neg passed, find?_targetsOf_of_not_mem hown hid, Option.none_or]
      exact ih hmore

/-! ### All passes -/

/-- **The first target of a type is the one that the rule gives it.** -/
theorem scopedTo_of_mem_typeTargets {u : TypeUsage} (usage : api.typeUsage = some u)
    {targets : List (TypeId × Target)} (h : api.typeTargets = .ok targets)
    (ht : api.types.get? id = some t) {place : Target} (hp : (id, place) ∈ targets) :
    api.ScopedTo u id t.path place := by
  simp only [typeTargets, usage] at h
  split at h
  · exact absurd h (by simp)
  next all hall =>
  obtain rfl := Except.ok.inj h
  -- Of all targets of the type the first one has been kept.
  have first : all.find? (fun p => decide (p.1 = id)) = some (id, place) := mem_distinctBy.1 hp
  obtain ⟨unscoped, single, remaining, hunscoped, hsingle, hremaining, rfl⟩ :=
    passes_of_serviceScopedTargets hall
  have own := packageTarget_of_get? ht
  obtain ⟨unclaimed, claimed⟩ := find?_scopedTargets ht hsingle
  rw [List.find?_append, List.find?_append] at first
  by_cases early : id ∈ u.unscoped
  · rw [find?_targetsOf_of_mem hunscoped own early, Option.some_or, Option.some_or,
      Option.some.injEq, Prod.mk.injEq] at first
    obtain ⟨-, rfl⟩ := first
    exact .unclaimable (TypeUsage.mem_unscoped.1 early)
  have claimable : ¬ u.Unclaimable id := fun h => early (TypeUsage.mem_unscoped.2 h)
  rw [find?_targetsOf_of_not_mem hunscoped early, Option.none_or] at first
  cases claim : u.onlyByService.entries.find? (claims id) with
  | none =>
    -- No service claims the type, and the last pass takes it.
    have last := find?_targetsOf_of_mem hremaining own (Table.mem_keys_of_get? ht)
    rw [unclaimed claim, Option.none_or, last, Option.some.injEq, Prod.mk.injEq] at first
    obtain ⟨-, rfl⟩ := first
    exact .unclaimed claimable (by rw [TypeUsage.firstClaim?, claim]; rfl)
  | some e =>
    have service : u.firstClaim? id = some e.1 := by rw [TypeUsage.firstClaim?, claim]; rfl
    obtain ⟨s, hs, found⟩ := claimed e claim
    rw [found, Option.some_or, Option.some.injEq, Prod.mk.injEq] at first
    obtain ⟨-, rfl⟩ := first
    split
    · next there => exact .claimed claimable service hs there
    · next apart => exact .elsewhere claimable service hs apart

/-- **Every type is in one file, the one that the rule gives it.** -/
theorem placeFiles_scopedTo {u : TypeUsage} (usage : api.typeUsage = some u)
    {includeRequests : Bool} {files : List (FileOf Placed)}
    (h : api.placeFiles includeRequests = .ok files) (ht : api.types.get? id = some t) :
    ∃ f ∈ files, .type id ∈ f.contents ∧ (∀ f' ∈ files, .type id ∈ f'.contents → f' = f) ∧
      api.ScopedTo u id t.path f.target := by
  obtain ⟨targets, htargets, rfl⟩ := placeFiles_eq_ok h
  have keys := typeTargets_keys htargets
  have hid : id ∈ api.types.keys := Table.mem_keys_of_get? ht
  obtain ⟨⟨_, place⟩, hp, rfl⟩ := List.mem_map.1 (keys.mem_iff.2 hid)
  obtain ⟨f, hf, there, rfl⟩ := exists_mem_gatherFiles.2 (type_mem_assignments.2 hp)
  refine ⟨f, hf, there, fun f' hf' there' => eq_of_mem_gatherFiles hf hf' ?_,
    scopedTo_of_mem_typeTargets usage htargets ht hp⟩
  -- A type has one target, and so one file.
  have hp' := type_mem_assignments.1 ((mem_contents_gatherFiles hf').1 there')
  have once : (targets.map Prod.fst).Nodup := keys.nodup_iff.2 api.types.nodup_keys
  exact congrArg Prod.snd (List.inj_on_of_nodup_map once hp' hp rfl)

/-- An API whose services claim types of each other. -/
def contestedApi : Api :=
  Api.empty (.ofIdentifier "acme")
    |>.addObject "Id" (.ofIdentifiers ["users"] none) []
    |>.addObject "Key" (.ofIdentifiers ["users"] none) []
    |>.addObject "User" (.ofIdentifiers ["users"] (some "user")) ["Id"]
    |>.addObject "Org" (.ofIdentifiers ["orgs"] none) ["User"]
    |>.addObject "Loose" .root []
    |>.addService "service_users" (.ofIdentifiers ["users"] (some "userService")) []
    |>.addService "service_orgs" (.ofIdentifiers ["orgs"] none) [.withWrapper "create"]
    |>.setTypeUsage ["Id"] [("service_orgs", ["Org", "User"]), ("service_", ["Key"]),
      ("service_users", ["User", "Key", "Id", "User"])]

/-- The second service that claims `User` would have a file for it, but comes too late. -/
theorem placeFiles_scopedTo_contestedApi :
    ∃ u files t, contestedApi.typeUsage = some u ∧ contestedApi.placeFiles true = .ok files ∧
      contestedApi.types.get? ⟨"User"⟩ = some t ∧ u.firstClaim? ⟨"User"⟩ = some ⟨"service_orgs"⟩ ∧
      ∃ f ∈ files, .type ⟨"User"⟩ ∈ f.contents ∧
        (∀ f' ∈ files, .type ⟨"User"⟩ ∈ f'.contents → f' = f) ∧
        contestedApi.ScopedTo u ⟨"User"⟩ t.path f.target := by
  obtain ⟨u, usage, claim⟩ : ∃ u, contestedApi.typeUsage = some u ∧
      u.firstClaim? ⟨"User"⟩ = some ⟨"service_orgs"⟩ := ⟨_, rfl, by decide⟩
  obtain ⟨files, h⟩ : ∃ files, contestedApi.placeFiles true = .ok files := ⟨_, rfl⟩
  obtain ⟨t, ht⟩ : ∃ t, contestedApi.types.get? ⟨"User"⟩ = some t := ⟨_, rfl⟩
  exact ⟨u, files, t, usage, h, ht, claim, placeFiles_scopedTo usage h ht⟩

end Api

end SdkLayout
