import Mathlib
import SdkLayout.Proofs.CycleReports
import SdkLayout.Proofs.PlanningFailures

/-!
# Moves and exported names

In one package no two types may be exported under one name. Resolution does not look at names when
it chooses where types go, and all shared packages are open to types of any origin: types of
different packages that bear the same name can meet in one of them
(`namesakesApi_united`).

Nothing else can go wrong. A report accounts for every path of the corrected API, so that types
which were in one package and are in one package again are told apart by the names that told them
apart before, and types of different packages only meet if one of them moved
(`Api.resolveCycles_namesakes`).
-/

namespace SdkLayout

namespace Api

/-- The exported name of a type. -/
def exportedName? (api : Api) (id : TypeId) : Option String :=
  (api.types.get? id).map fun t => t.name.exported

/-- Different types of one package with the same exported name. -/
def Namesakes (api : Api) (importPath : String) (a b : TypeId) : Prop :=
  a ≠ b ∧ api.packageOf importPath a = api.packageOf importPath b ∧
    api.exportedName? a = api.exportedName? b

/-- The types of a package have different exported names. -/
def NamesApart (api : Api) (importPath : String) : Prop :=
  ∀ a ∈ api.types.keys, ∀ b ∈ api.types.keys, ¬ api.Namesakes importPath a b

variable {api corrected : Api} {importPath : String} {report : CycleReport} {a b : TypeId}

instance : Decidable (api.Namesakes importPath a b) :=
  inferInstanceAs (Decidable (_ ∧ _ ∧ _))

instance : Decidable (api.NamesApart importPath) :=
  inferInstanceAs (Decidable (∀ a ∈ api.types.keys, ∀ b ∈ api.types.keys, ¬ _))

@[simp] theorem exportedName?_mapPaths (f : TypeId → DeclarationPath → DeclarationPath)
    (id : TypeId) : (api.mapPaths f).exportedName? id = api.exportedName? id := by
  rw [exportedName?, get?_mapPaths, Option.map_map]
  rfl

/-- A type is in the package where it was declared, or in the one that a move took it to. -/
theorem packageOf_mapPaths_pathAfter (moves : List Relocation) (id : TypeId) :
    (api.mapPaths (pathAfter moves)).packageOf importPath id = api.packageOf importPath id ∨
      ∃ r ∈ moves, r.type = id ∧ (api.mapPaths (pathAfter moves)).packageOf importPath id =
        some (packageIdentity importPath r.destination) := by
  rw [packageOf, packageOf, get?_mapPaths, Option.map_map]
  cases declared : api.types.get? id with
  | none => exact .inl rfl
  | some t =>
    by_cases moved : id ∈ moves.map Relocation.type
    · obtain ⟨r, hr, same, there⟩ := exists_destination_of_mem moved t.path
      exact .inr ⟨r, hr, same, congrArg (fun p => some (packageIdentity importPath p)) there⟩
    · refine .inl ?_
      exact congrArg (fun p => some (packageIdentity importPath p)) (pathAfter_of_not_mem moved)

/-- Types that reach each other by references end up in one package. -/
theorem packageOf_eq_of_resolveCycles
    (h : api.resolveCycles importPath = .ok (corrected, report))
    (there : Relation.ReflTransGen api.Refers a b) (back : Relation.ReflTransGen api.Refers b a)
    (ha : a ∈ api.types.keys) (hb : b ∈ api.types.keys) :
    corrected.packageOf importPath a = corrected.packageOf importPath b := by
  obtain ⟨-, -, -, -, -, -, none⟩ := resolveCycles_eq_ok h
  rw [← refers_of_resolveCycles h] at there back
  obtain ⟨f, rfl⟩ := exists_mapPaths_of_resolveCycles h
  rw [← keys_mapPaths f api] at ha hb
  obtain ⟨p, hp⟩ := exists_packageOf importPath ha
  obtain ⟨q, hq⟩ := exists_packageOf importPath hb
  rw [hp, hq, Option.some.injEq]
  rw [packageOf, ← ReferenceGraph.packageOf_ofApi] at hp hq
  exact ReferenceGraph.packageOf_eq_of_between none there back hp hq hp

/-- **Names only clash where a move brings types of different packages together.** If names are
apart in an API, two types of the corrected API that clash were declared in different packages, and
one of them is reported to have moved to the package that they have in common, a shared one. -/
theorem resolveCycles_namesakes (apart : api.NamesApart importPath)
    (h : api.resolveCycles importPath = .ok (corrected, report)) (ha : a ∈ corrected.types.keys)
    (hb : b ∈ corrected.types.keys) (clash : corrected.Namesakes importPath a b) :
    api.packageOf importPath a ≠ api.packageOf importPath b ∧
      ∃ r ∈ report.relocations, (r.type = a ∨ r.type = b) ∧
        r.destination.shared = r.destination ∧
        corrected.packageOf importPath a = some (packageIdentity importPath r.destination) ∧
        corrected.packageOf importPath b = some (packageIdentity importPath r.destination) := by
  obtain ⟨n, s, run, rfl, rfl, -, -⟩ := resolveCycles_eq_ok h
  obtain ⟨applied, justified⟩ := run.accounted (.initial importPath api)
  obtain ⟨hne, together, name⟩ := clash
  have different : api.packageOf importPath a ≠ api.packageOf importPath b := by
    intro same
    rw [applied, keys_mapPaths] at ha hb
    rw [applied, exportedName?_mapPaths, exportedName?_mapPaths] at name
    exact apart a ha b hb ⟨hne, same, name⟩
  refine ⟨different, ?_⟩
  have placed : ∀ id, s.api.packageOf importPath id = api.packageOf importPath id ∨
      ∃ r ∈ s.relocations, r.type = id ∧
        s.api.packageOf importPath id = some (packageIdentity importPath r.destination) := by
    intro id
    rw [applied]
    exact packageOf_mapPaths_pathAfter s.relocations id
  rcases placed a with stays | ⟨r, hr, same, there⟩
  · rcases placed b with stays' | ⟨r, hr, same, there⟩
    -- If neither had moved, they would have been in one package before.
    · exact absurd (stays.symm.trans (together.trans stays')) different
    · exact ⟨r, hr, .inr same, (justified r hr).settled, together.trans there, there⟩
  · exact ⟨r, hr, .inl same, (justified r hr).settled, there, together.symm.trans there⟩

end Api

/-- Two types of different packages that refer to each other and are exported under one name. -/
def namesakesApi : Api :=
  Api.empty (.ofIdentifier "acme")
    |>.addObject "User" .root ["user"]
    |>.addObject "user" (.ofIdentifiers ["x"] none) ["User"]

theorem refers_namesakesApi :
    namesakesApi.Refers ⟨"User"⟩ ⟨"user"⟩ ∧ namesakesApi.Refers ⟨"user"⟩ ⟨"User"⟩ :=
  ⟨⟨_, rfl, by decide⟩, ⟨_, rfl, by decide⟩⟩

theorem exists_resolved_namesakesApi :
    ∃ corrected report, namesakesApi.resolveCycles "m" = .ok (corrected, report) ∧
      ⟨"User"⟩ ∈ corrected.types.keys ∧ ⟨"user"⟩ ∈ corrected.types.keys ∧
      corrected.Namesakes "m" ⟨"User"⟩ ⟨"user"⟩ := by
  have resolved : (namesakesApi.resolveCycles "m").isOk = true := by cbv
  -- Only whether there is an answer is evaluated. What it is like follows from the two references.
  cases h : namesakesApi.resolveCycles "m" with
  | error e =>
    rw [h] at resolved
    exact absurd resolved Bool.false_ne_true
  | ok answer =>
    obtain ⟨corrected, report⟩ := answer
    have together := Api.packageOf_eq_of_resolveCycles h (.single refers_namesakesApi.1)
      (.single refers_namesakesApi.2) (by decide) (by decide)
    obtain ⟨f, rfl⟩ := Api.exists_mapPaths_of_resolveCycles h
    refine ⟨_, report, rfl, ?_, ?_, by decide, together, ?_⟩
    · rw [Api.keys_mapPaths]
      decide
    · rw [Api.keys_mapPaths]
      decide
    · rw [Api.exportedName?_mapPaths, Api.exportedName?_mapPaths]
      decide +kernel

/-- Resolution can unite two types of one exported name in a package. -/
theorem namesakesApi_united :
    namesakesApi.NamesApart "m" ∧
      ∃ corrected report, namesakesApi.resolveCycles "m" = .ok (corrected, report) ∧
        ¬ corrected.NamesApart "m" := by
  have apart : namesakesApi.NamesApart "m" := by decide +kernel
  obtain ⟨corrected, report, h, ha, hb, clash⟩ := exists_resolved_namesakesApi
  exact ⟨apart, corrected, report, h, fun apart' => apart' _ ha _ hb clash⟩

theorem resolveCycles_namesakes_namesakesApi :
    namesakesApi.NamesApart "m" ∧
      ∃ corrected report, namesakesApi.resolveCycles "m" = .ok (corrected, report) ∧
        ⟨"User"⟩ ∈ corrected.types.keys ∧ ⟨"user"⟩ ∈ corrected.types.keys ∧
        corrected.Namesakes "m" ⟨"User"⟩ ⟨"user"⟩ ∧
        namesakesApi.packageOf "m" ⟨"User"⟩ ≠ namesakesApi.packageOf "m" ⟨"user"⟩ ∧
        ∃ r ∈ report.relocations, (r.type = ⟨"User"⟩ ∨ r.type = ⟨"user"⟩) ∧
          r.destination.shared = r.destination ∧
          corrected.packageOf "m" ⟨"User"⟩ = some (packageIdentity "m" r.destination) ∧
          corrected.packageOf "m" ⟨"user"⟩ = some (packageIdentity "m" r.destination) := by
  have apart : namesakesApi.NamesApart "m" := by decide +kernel
  obtain ⟨corrected, report, h, ha, hb, clash⟩ := exists_resolved_namesakesApi
  exact ⟨apart, corrected, report, h, ha, hb, clash,
    Api.resolveCycles_namesakes apart h ha hb clash⟩

end SdkLayout
