import SdkLayout.Placement.Files

/-!
# The targets of types

Where the types of an API go is decided in one list of targets (`Api.typeTargets`). Under both
strategies this list has every type of the API once and nothing else (`typeTargets_keys`), and the
target of a type is one of three: the file that its path names, the file for the types of its
package, or the file of a service in the same directory (`TargetOf`).

The list exists unless the usage information names a type or a service that is missing
(`exists_typeTargets`).
-/

namespace SdkLayout

/-- The file for the types of a package. -/
def DeclarationPath.packageFile (rootPackage : String) (path : DeclarationPath) : Target :=
  path.targetInPackage rootPackage (sourceFile defaultBasename)

namespace Api

/-- What the target of a type declaration can be. -/
inductive TargetOf (api : Api) (t : TypeDeclaration) : Target → Prop where
  | file : TargetOf api t (t.path.target api.rootPackageName)
  | package : TargetOf api t (t.path.packageFile api.rootPackageName)
  /-- The file of a service, which then lies in the directory of the type. -/
  | service {id : ServiceId} {s : Service} : api.services.get? id = some s →
      (t.path.packageFile api.rootPackageName).directory =
        (s.path.serviceTarget api.rootPackageName).directory →
      TargetOf api t (s.path.serviceTarget api.rootPackageName)

/-- A target for a type of the API. -/
def Targets (api : Api) (p : TypeId × Target) : Prop :=
  ∃ t, api.types.get? p.1 = some t ∧ api.TargetOf t p.2

theorem Targets.mem_keys {api : Api} {p : TypeId × Target} (h : api.Targets p) :
    p.1 ∈ api.types.keys := by
  obtain ⟨t, ht, -⟩ := h
  exact Table.mem_keys_of_get? ht

variable {api : Api}

theorem packageTarget_eq_ok {id : TypeId} {target : Target}
    (h : api.packageTarget id = .ok target) :
    ∃ t, api.types.get? id = some t ∧ target = t.path.packageFile api.rootPackageName := by
  unfold packageTarget at h
  split at h
  · next t ht => exact ⟨t, ht, (Except.ok.inj h).symm⟩
  · exact absurd h (by simp)

theorem packageTarget_of_get? {id : TypeId} {t : TypeDeclaration}
    (ht : api.types.get? id = some t) :
    api.packageTarget id = .ok (t.path.packageFile api.rootPackageName) := by
  rw [packageTarget, ht]
  rfl

theorem targets_of_packageTarget {id : TypeId} {target : Target}
    (h : api.packageTarget id = .ok target) : api.Targets (id, target) := by
  obtain ⟨t, ht, rfl⟩ := packageTarget_eq_ok h
  exact ⟨t, ht, .package⟩

theorem targets_of_scopedTarget {service : ServiceId} {s : Service}
    (hs : api.services.get? service = some s) {id : TypeId} {target : Target}
    (h : api.scopedTarget (s.path.serviceTarget api.rootPackageName) id = .ok target) :
    api.Targets (id, target) := by
  unfold scopedTarget at h
  split at h
  · exact absurd h (by simp)
  · next own hown =>
    obtain ⟨t, ht, rfl⟩ := packageTarget_eq_ok hown
    obtain rfl := Except.ok.inj h
    refine ⟨t, ht, ?_⟩
    simp only
    split
    · next same => exact .service hs same
    · exact .package

/-- Giving targets to types one after the other keeps the types and their order. -/
theorem targetsOf_eq_ok {target : TypeId → Except LayoutError Target} {ids : List TypeId}
    {out : List (TypeId × Target)} (h : targetsOf target ids = .ok out) :
    out.map Prod.fst = ids ∧ ∀ p ∈ out, target p.1 = .ok p.2 := by
  -- The first failure is that of the list, so that a result has a target for every type.
  induction ids generalizing out with
  | nil =>
    obtain rfl := Except.ok.inj h
    exact ⟨rfl, by simp⟩
  | cons id rest ih =>
    rw [targetsOf] at h
    split at h
    · exact absurd h (by simp)
    · next t ht =>
      split at h
      · exact absurd h (by simp)
      · next more hmore =>
        obtain rfl := Except.ok.inj h
        obtain ⟨hkeys, hall⟩ := ih hmore
        exact ⟨congrArg (id :: ·) hkeys, List.forall_mem_cons.2 ⟨ht, hall⟩⟩

/-- The last pass gives every type, in the order of the table, the file of its package. -/
theorem targetsOf_packageTarget_keys (api : Api) :
    targetsOf api.packageTarget api.types.keys =
      .ok (api.types.entries.map fun e => (e.1, e.2.path.packageFile api.rootPackageName)) := by
  have all : ∀ e ∈ api.types.entries,
      api.packageTarget e.1 = .ok (e.2.path.packageFile api.rootPackageName) := fun e he =>
    packageTarget_of_get? (Table.get?_eq_some_iff.2 he)
  rw [Table.keys]
  generalize api.types.entries = entries at all
  induction entries with
  | nil => rfl
  | cons e rest ih =>
    obtain ⟨he, hrest⟩ := List.forall_mem_cons.1 all
    rw [List.map_cons, targetsOf, he, ih hrest]
    rfl

/-- The pass over the services passes over the root service. Any other service is one of the API,
and what it gives targets to stands before what the services behind it do. -/
theorem scopedTargets_cons_eq_ok {e : ServiceId × List TypeId}
    {rest : List (ServiceId × List TypeId)} {out : List (TypeId × Target)}
    (h : api.scopedTargets (e :: rest) = .ok out) :
    (e.1 = rootServiceId ∧ api.scopedTargets rest = .ok out) ∨
    (e.1 ≠ rootServiceId ∧ ∃ s own more, api.services.get? e.1 = some s ∧
      targetsOf (api.scopedTarget (s.path.serviceTarget api.rootPackageName)) e.2 = .ok own ∧
      api.scopedTargets rest = .ok more ∧ out = own ++ more) := by
  rw [scopedTargets] at h
  split at h
  · next root => exact .inl ⟨root, h⟩
  next other =>
  split at h
  · exact absurd h (by simp)
  next s hs =>
  split at h
  · exact absurd h (by simp)
  next own hown =>
  split at h
  · exact absurd h (by simp)
  next more hmore =>
  exact .inr ⟨other, s, own, more, hs, hown, hmore, (Except.ok.inj h).symm⟩

theorem scopedTargets_eq_ok {usage : List (ServiceId × List TypeId)}
    {out : List (TypeId × Target)} (h : api.scopedTargets usage = .ok out) :
    ∀ p ∈ out, api.Targets p := by
  induction usage generalizing out with
  | nil =>
    obtain rfl := Except.ok.inj h
    exact fun p hp => absurd hp (by simp)
  | cons e rest ih =>
    obtain ⟨-, passed⟩ | ⟨-, s, own, more, hs, hown, hmore, rfl⟩ := scopedTargets_cons_eq_ok h
    · exact ih passed
    intro p hp
    rcases List.mem_append.1 hp with ho | hm
    · exact targets_of_scopedTarget hs ((targetsOf_eq_ok hown).2 p ho)
    · exact ih hmore p hm

/-- The service-scoped strategy succeeds if all passes do, and lists their targets in turn. -/
theorem passes_of_serviceScopedTargets {u : TypeUsage} {out : List (TypeId × Target)}
    (h : api.serviceScopedTargets u = .ok out) :
    ∃ unscoped single remaining, targetsOf api.packageTarget u.unscoped = .ok unscoped ∧
      api.scopedTargets u.onlyByService.entries = .ok single ∧
      targetsOf api.packageTarget api.types.keys = .ok remaining ∧
      out = unscoped ++ single ++ remaining := by
  unfold serviceScopedTargets at h
  split at h
  · exact absurd h (by simp)
  next unscoped hu =>
  split at h
  · exact absurd h (by simp)
  next single hs =>
  split at h
  · exact absurd h (by simp)
  next remaining hr =>
  exact ⟨unscoped, single, remaining, hu, hs, hr, (Except.ok.inj h).symm⟩

/-- Under the service-scoped strategy every type gets a target in the end, whatever services are
said to use. -/
theorem serviceScopedTargets_eq_ok {u : TypeUsage} {out : List (TypeId × Target)}
    (h : api.serviceScopedTargets u = .ok out) :
    (∀ id ∈ api.types.keys, id ∈ out.map Prod.fst) ∧ ∀ p ∈ out, api.Targets p := by
  obtain ⟨unscoped, single, remaining, hu, hs, hr, rfl⟩ := passes_of_serviceScopedTargets h
  constructor
  -- The last pass goes over all types, so that the passes before need not be looked at.
  · intro id hid
    rw [List.map_append, (targetsOf_eq_ok hr).1]
    exact List.mem_append_right _ hid
  · intro p hp
    rcases List.mem_append.1 hp with hp | hp
    · rcases List.mem_append.1 hp with hp | hp
      · exact targets_of_packageTarget ((targetsOf_eq_ok hu).2 p hp)
      · exact scopedTargets_eq_ok hs p hp
    · exact targets_of_packageTarget ((targetsOf_eq_ok hr).2 p hp)

theorem typeTargets_targets {out : List (TypeId × Target)} (h : api.typeTargets = .ok out) :
    ∀ p ∈ out, api.Targets p := by
  unfold typeTargets at h
  split at h
  · obtain rfl := Except.ok.inj h
    intro p hp
    obtain ⟨e, he, rfl⟩ := List.mem_map.1 hp
    exact ⟨e.2, Table.get?_eq_some_iff.2 he, .file⟩
  · split at h
    · exact absurd h (by simp)
    next targets ht =>
    obtain rfl := Except.ok.inj h
    intro p hp
    exact (serviceScopedTargets_eq_ok ht).2 p ((distinctBy_sublist Prod.fst targets).subset hp)

/-- **Every type has one target**, and nothing else has. -/
theorem typeTargets_keys {out : List (TypeId × Target)} (h : api.typeTargets = .ok out) :
    (out.map Prod.fst).Perm api.types.keys := by
  -- Whatever the pass, only types of the API have targets.
  have sound : ∀ id ∈ out.map Prod.fst, id ∈ api.types.keys := by
    intro id hid
    obtain ⟨p, hp, rfl⟩ := List.mem_map.1 hid
    exact (typeTargets_targets h p hp).mem_keys
  unfold typeTargets at h
  split at h
  · obtain rfl := Except.ok.inj h
    rw [perTypeTargets, List.map_map]
    exact List.Perm.refl _
  · split at h
    · exact absurd h (by simp)
    next targets ht =>
    obtain rfl := Except.ok.inj h
    -- Several passes may have named a type, but only its first target is kept.
    refine (List.perm_ext_iff_of_nodup (nodup_map_distinctBy _ _) api.types.nodup_keys).2
      fun id => ⟨sound id, fun hid => ?_⟩
    exact (map_distinctBy_mem _ _ _).2 ((serviceScopedTargets_eq_ok ht).1 id hid)

/-! ### Known usage -/

/-- The usage information is about types and services of the API. The root service has no file, and
need not be there. -/
def UsageKnown (api : Api) : Prop :=
  ∀ u ∈ api.typeUsage, (∀ id ∈ u.shared, id ∈ api.types.keys) ∧
    ∀ e ∈ u.onlyByService.entries,
      (e.1 ≠ rootServiceId → e.1 ∈ api.services.keys) ∧ ∀ id ∈ e.2, id ∈ api.types.keys

instance (api : Api) : Decidable api.UsageKnown :=
  inferInstanceAs (Decidable (∀ u ∈ api.typeUsage, (∀ id ∈ u.shared, id ∈ api.types.keys) ∧
    ∀ e ∈ u.onlyByService.entries,
      (e.1 ≠ rootServiceId → e.1 ∈ api.services.keys) ∧ ∀ id ∈ e.2, id ∈ api.types.keys))

theorem exists_packageTarget {id : TypeId} (known : id ∈ api.types.keys) :
    ∃ target, api.packageTarget id = .ok target := by
  obtain ⟨t, ht⟩ := Table.mem_keys_iff.1 known
  exact ⟨_, packageTarget_of_get? ht⟩

theorem exists_scopedTarget {id : TypeId} (known : id ∈ api.types.keys) (serviceTarget : Target) :
    ∃ target, api.scopedTarget serviceTarget id = .ok target := by
  obtain ⟨own, hown⟩ := exists_packageTarget known
  exact ⟨_, by rw [scopedTarget, hown]⟩

theorem exists_targetsOf {target : TypeId → Except LayoutError Target} {ids : List TypeId}
    (h : ∀ id ∈ ids, ∃ t, target id = .ok t) : ∃ out, targetsOf target ids = .ok out := by
  induction ids with
  | nil => exact ⟨_, rfl⟩
  | cons id rest ih =>
    obtain ⟨⟨t, ht⟩, hrest⟩ := List.forall_mem_cons.1 h
    obtain ⟨more, hmore⟩ := ih hrest
    exact ⟨(id, t) :: more, by rw [targetsOf, ht, hmore]⟩

theorem exists_scopedTargets {usage : List (ServiceId × List TypeId)}
    (services : ∀ e ∈ usage, e.1 ≠ rootServiceId → e.1 ∈ api.services.keys)
    (types : ∀ e ∈ usage, ∀ id ∈ e.2, id ∈ api.types.keys) :
    ∃ out, api.scopedTargets usage = .ok out := by
  induction usage with
  | nil => exact ⟨_, rfl⟩
  | cons e rest ih =>
    obtain ⟨hs, hrest⟩ := List.forall_mem_cons.1 services
    obtain ⟨ht, hrest'⟩ := List.forall_mem_cons.1 types
    obtain ⟨more, hmore⟩ := ih hrest hrest'
    rw [scopedTargets]
    split
    -- The types of the root service have got their targets in the pass before.
    · exact ⟨more, hmore⟩
    · next other =>
      obtain ⟨s, service⟩ := Table.mem_keys_iff.1 (hs other)
      obtain ⟨own, hown⟩ := exists_targetsOf fun id hid =>
        exists_scopedTarget (ht id hid) (s.path.serviceTarget api.rootPackageName)
      exact ⟨own ++ more, by rw [service]; simp only [hown, hmore]⟩

/-- Where the usage is known, every type has a target. -/
theorem exists_typeTargets (usage : api.UsageKnown) : ∃ out, api.typeTargets = .ok out := by
  unfold typeTargets
  split
  · exact ⟨_, rfl⟩
  · next u hu =>
    obtain ⟨shared, single⟩ := usage u hu
    -- The first pass gets the types of several services, and those of the root service alone.
    have unscoped : ∀ id ∈ u.unscoped, id ∈ api.types.keys := by
      intro id hid
      rcases List.mem_append.1 hid with hid | hid
      · exact shared id hid
      · cases hroot : u.onlyByService.get? rootServiceId with
        | none => exact absurd hid (by simp [hroot])
        | some ids =>
          rw [hroot, Option.getD_some] at hid
          exact (single _ (Table.get?_eq_some_iff.1 hroot)).2 id hid
    obtain ⟨first, hfirst⟩ : ∃ out, targetsOf api.packageTarget u.unscoped = .ok out :=
      exists_targetsOf fun id hid => exists_packageTarget (unscoped id hid)
    obtain ⟨second, hsecond⟩ :=
      exists_scopedTargets (fun e he => (single e he).1) fun e he => (single e he).2
    -- The last pass goes over the types themselves, so that it cannot fail.
    rw [serviceScopedTargets, hfirst, hsecond, targetsOf_packageTarget_keys]
    exact ⟨_, rfl⟩

end Api

end SdkLayout
