import SdkLayout.Proofs.LetterCases
import SdkLayout.Proofs.PlannedPaths
import SdkLayout.Proofs.FileNames

/-!
# Names that become keywords

A name stands for a directory and a package: its camel case, escaped if it is a keyword, in lower
case. The escape comes first and the lower case after it. So a name like `type` is escaped; but
`ty_pe` is `tyPe` in camel case, which is no keyword, and becomes `type` afterwards.

**Several words.** That is the only way in which a package can come to be named by a keyword: the
name has at least two words, which spell the keyword if case does not matter (`SpellsKeyword`). The
camel case of two words is never a keyword, as there is upper case in it. That of a single word is
its lower case, and if the lower case of that is a keyword, it is one itself and has been escaped.

**Plans.** The names of the directories and packages in a plan come from the paths of the API, so
that the ones that are keywords come from such names (`reserved_segments`), and there are some
(`spelledApi_reserved`).
-/

namespace SdkLayout

/-- Several words, written in camel case, spell a keyword if case does not matter. -/
def SpellsKeyword (s : String) : Prop :=
  2 ≤ (Text.splitWords s.toList).length ∧ isKeyword (lowercase (Casing.camel.write s)) = true

instance (s : String) : Decidable (SpellsKeyword s) :=
  inferInstanceAs (Decidable (_ ∧ _))

/-- Keywords are made of small letters. -/
theorem small_of_isKeyword {s : String} (h : isKeyword s = true) {c : Char} (hc : c ∈ s.toList) :
    c.isLower = true := by
  have all : (keywords.all fun k => k.toList.all Char.isLower) = true := by decide +kernel
  exact List.all_eq_true.1 (List.all_eq_true.1 all s (List.contains_iff_mem.1 h)) c hc

theorem escapeKeyword_of_not_isKeyword {s : String} (h : ¬ isKeyword s = true) :
    escapeKeyword s = s := if_neg h

/-- A keyword that is escaped stays so in lower case. -/
theorem not_isKeyword_lowercase_escapeKeyword {s : String} (h : isKeyword s = true) :
    ¬ isKeyword (lowercase (escapeKeyword s)) = true := by
  intro keyword
  have marked : '_' ∈ (lowercase (escapeKeyword s)).toList := by
    rw [lowercase, String.toList_ofList, escapeKeyword, if_pos h, String.toList_append]
    exact Text.underscore_mem_lower (List.mem_append_right _ (by decide))
  exact absurd (small_of_isKeyword keyword marked) (by decide)

/-- Camel case of several words is no keyword. -/
theorem not_isKeyword_camel {s : String} (h : 2 ≤ (Text.splitWords s.toList).length) :
    ¬ isKeyword (Casing.camel.write s) = true := by
  intro keyword
  obtain ⟨d, hd, big⟩ := Text.exists_mem_camelCase h
  refine big (small_of_isKeyword keyword ?_)
  rwa [Casing.write, String.toList_ofList]

/-- The camel case of a single word is in lower case as far as keywords go. -/
theorem isKeyword_camel_of_lowercase {s : String} (h : (Text.splitWords s.toList).length < 2)
    (keyword : isKeyword (lowercase (Casing.camel.write s)) = true) :
    isKeyword (Casing.camel.write s) = true := by
  have single : ∃ word, Text.camelCase s.toList = Text.lower word := by
    rw [Text.camelCase]
    rcases words : Text.splitWords s.toList with _ | ⟨word, _ | ⟨second, rest⟩⟩
    · exact ⟨[], rfl⟩
    · exact ⟨word, List.append_nil _⟩
    · rw [words] at h
      exact absurd h (by simp)
  obtain ⟨word, camel⟩ := single
  -- A keyword has small letters only. Then writing a word in lower case once more changes nothing.
  have small : ∀ d ∈ Text.lower (Text.lower word), d.isLower = true := by
    intro d hd
    refine small_of_isKeyword keyword ?_
    rwa [lowercase, Casing.write, String.toList_ofList, String.toList_ofList, camel]
  have same : lowercase (Casing.camel.write s) = Casing.camel.write s := by
    rw [lowercase, Casing.write, String.toList_ofList, camel, Text.lower_lower_of_small small]
  rwa [same] at keyword

/-- **The package of a name is reserved if and only if several words spell it.** -/
theorem isKeyword_segment_ofIdentifier (s : String) :
    isKeyword (Name.ofIdentifier s).segment = true ↔ SpellsKeyword s := by
  change isKeyword (lowercase (escapeKeyword (Casing.camel.write s))) = true ↔ SpellsKeyword s
  by_cases keyword : isKeyword (Casing.camel.write s) = true
  · refine iff_of_false (not_isKeyword_lowercase_escapeKeyword keyword) fun spelt => ?_
    exact not_isKeyword_camel spelt.1 keyword
  · rw [escapeKeyword_of_not_isKeyword keyword]
    refine ⟨fun lower => ⟨?_, lower⟩, fun spelt => spelt.2⟩
    by_contra few
    exact keyword (isKeyword_camel_of_lowercase (by omega) lower)

/-! ### Directories and packages -/

/-- Artifacts are in the root package or in one of two packages of their own. -/
theorem package_of_mem_placeArtifacts {config : Config} {api : Api} {registry : Registry}
    {a : Artifact} (h : a ∈ placeArtifacts config api registry) :
    a.target.package = api.rootPackageName ∨ a.target.package ∈ [corePackage, clientPackage] := by
  rcases mem_placeArtifacts_cases h with ⟨-, s, -, shadowed, rfl⟩ | fixed
  · unfold Singleton.place
    split
    · exact .inr List.mem_cons_self
    · split <;> exact .inl rfl
  · have all : ∀ a ∈ fixedArtifacts, a.target.package ∈ [corePackage, clientPackage] := by
      decide +kernel
    exact .inr (all a fixed)

/-- The names that directories and packages can come from: that of the API, and those in its
paths. -/
def Api.Names (api : Api) (n : Name) : Prop :=
  n = api.name ∨ (∃ e ∈ api.declaredPaths, n ∈ e.2.names) ∨
    ∃ root, api.rootPackage = some root ∧ n ∈ root.path.names

/-- Some name of the API spells a directory that is a keyword. -/
def Api.Spells (api : Api) (d : String) : Prop :=
  ∃ n, api.Names n ∧ n.segment = d ∧ SpellsKeyword n.identifier

/-- The names of an API are in its paths. -/
theorem Api.forallPaths_names (api : Api) :
    api.ForallPaths fun path => ∀ n ∈ path.names, api.Names n ∨ n = .ofIdentifier sharedName :=
  forallPaths_of_declaredPaths (fun e he _ hn => .inl (.inr (.inl ⟨e, he, hn⟩)))
    fun root hroot _ hn => .inl (.inr (.inr ⟨root, hroot, hn⟩))

section Spelling

variable {api : Api} (derived : ∀ n, api.Names n → n = .ofIdentifier n.identifier)

include derived

/-- If the directory of a derived name is a keyword, words spell it. -/
theorem Api.spells_of_names {n : Name} (h : api.Names n) (keyword : isKeyword n.segment = true) :
    api.Spells n.segment := by
  refine ⟨n, h, rfl, ?_⟩
  rw [derived n h] at keyword
  exact (isKeyword_segment_ofIdentifier _).1 keyword

/-- Neither the shared package nor that of a client without a file is a keyword. -/
theorem Api.spells_of_leads {t : Target} {path : DeclarationPath} {dirs : List String}
    (names : ∀ n ∈ path.names, api.Names n ∨ n = .ofIdentifier sharedName)
    (leads : path.Leads api.rootPackageName dirs t) :
    ∀ d ∈ t.package :: dirs, isKeyword d = true → api.Spells d := by
  have plain : isKeyword defaultClientDir = false ∧
      isKeyword (Name.ofIdentifier sharedName).segment = false := by decide +kernel
  have spells : ∀ d, (d = defaultClientDir ∨ ∃ n ∈ path.names, n.segment = d) →
      isKeyword d = true → api.Spells d := by
    rintro d (rfl | ⟨n, hn, rfl⟩) keyword
    · exact absurd (plain.1.symm.trans keyword) Bool.false_ne_true
    · rcases names n hn with own | rfl
      · exact spells_of_names derived own keyword
      · exact absurd (plain.2.symm.trans keyword) Bool.false_ne_true
  refine List.forall_mem_cons.2 ⟨fun keyword => ?_, fun d hd => spells d (leads.dirs_cases d hd)⟩
  -- The package of the root has the name of the API.
  rcases leads.package_cases with root | inner
  · rw [root] at keyword ⊢
    exact spells_of_names derived (.inl rfl) keyword
  · exact spells _ inner keyword

end Spelling

/-- **Directories and packages that are keywords.** The package of a name is a keyword if and only
if several words of the name spell it. Where all names are derived from identifiers, each directory
and each package in a plan that is a keyword is that of such a name. -/
theorem reserved_segments (config : Config) (api : Api) :
    (∀ s, isKeyword (Name.ofIdentifier s).segment = true ↔ SpellsKeyword s) ∧
    ((∀ n, api.Names n → n = .ofIdentifier n.identifier) →
      ∀ c, planning config api = .ok c → ∃ p, c.plan = some p ∧
        (∀ t ∈ p.files.map FileOf.target ++ p.errors.map FileOf.target
            ++ p.docs.map DocFile.target ++ p.clients.map Client.target,
          ∃ path dirs, (∀ n ∈ DeclarationPath.names path,
              api.Names n ∨ n = .ofIdentifier sharedName) ∧
            path.Leads api.rootPackageName dirs t ∧
            ∀ d ∈ t.package :: dirs, isKeyword d = true → api.Spells d) ∧
        ∀ a ∈ p.artifacts, isKeyword a.target.package = true → api.Spells a.target.package) := by
  refine ⟨isKeyword_segment_ofIdentifier, fun derived c h => ?_⟩
  obtain ⟨r, rfl⟩ := planning_eq_ok_iff.1 h
  refine ⟨r.plan, rfl, fun t ht => ?_, fun a ha => ?_⟩
  · obtain ⟨path, dirs, names, leads⟩ := r.comes api.forallPaths_names
      (fun _ => DeclarationPath.forall_names_shared (.inr rfl))
      (fun p hp => p.names_withFileAsPackage ▸ hp) t ht
    exact ⟨path, dirs, names, leads, Api.spells_of_leads derived names leads⟩
  · obtain ⟨-, -, artifacts⟩ := Plan.sections_of_build r.placed
    obtain ⟨f, moved⟩ := Api.exists_mapPaths_of_resolveCycles r.resolved
    intro keyword
    rcases package_of_mem_placeArtifacts (artifacts ▸ ha) with root | own
    · -- The name of the API stays when types move.
      have name : r.corrected.rootPackageName = api.name.segment := by rw [moved]; rfl
      rw [root, name] at keyword ⊢
      exact Api.spells_of_names derived (.inl rfl) keyword
    · have plain : ∀ d ∈ [corePackage, clientPackage], isKeyword d = false := by decide +kernel
      exact absurd ((plain _ own).symm.trans keyword) Bool.false_ne_true

/-- An API with a package that is named by two words. -/
def spelledApi : Api :=
  Api.empty (.ofIdentifier "acme")
    |>.addObject "Kind" (.ofIdentifiers ["ty_pe"] none) []

theorem exists_planning_spelledApi :
    ∃ c p, planning .default spelledApi = .ok c ∧ c.plan = some p ∧
      ∃ f ∈ p.files, f.target = ⟨"type/types.go", "type"⟩ := by
  have valid : spelledApi.validate = .ok () := by decide +kernel
  have usage : spelledApi.UsageKnown := by decide +kernel
  obtain ⟨c, p, tree, ok, plan, placed⟩ : ∃ c p tree, planning .default spelledApi = .ok c ∧
      c.plan = some p ∧ Plan.build .default spelledApi (.ofApi spelledApi) tree = .ok p :=
    exists_plan_of_inside (Api.intact_of_validate valid) usage rfl
  obtain ⟨files, -⟩ := Plan.build_eq_ok placed
  have key : (⟨"Kind"⟩ : TypeId) ∈ spelledApi.types.keys := by decide +kernel
  obtain ⟨f, hf, there⟩ := Api.exists_file_of_mem_keys files key
  obtain ⟨t, ht, target⟩ := Api.targets_of_mem_placeFiles files hf there
  obtain rfl : TypeDeclaration.mk ⟨"Kind"⟩ (.ofIdentifiers ["ty_pe"] none) (.ofIdentifier "Kind")
      (.object [] []) (.ofList []) none = t := Option.some.inj ht
  refine ⟨c, p, ok, plan, f, hf, ?_⟩
  generalize f.target = place at target
  -- Whether by itself or with its package, the type lands in the same file.
  cases target with
  | file => decide +kernel
  | package => decide +kernel
  | service hs _ => exact absurd (show none = some _ from hs) nofun

theorem names_spelledApi : ∀ n, spelledApi.Names n → n = .ofIdentifier n.identifier := by
  have declared : ∀ e ∈ spelledApi.declaredPaths, ∀ n ∈ e.2.names,
      n = .ofIdentifier n.identifier := by decide +kernel
  rintro n (rfl | ⟨e, he, hn⟩ | ⟨root, hroot, -⟩)
  · rfl
  · exact declared e he n hn
  · exact absurd (show none = some root from hroot) nofun

theorem reserved_segments_spelledApi :
    (∀ n, spelledApi.Names n → n = .ofIdentifier n.identifier) ∧
    ∃ c, planning .default spelledApi = .ok c ∧ ∃ p, c.plan = some p ∧
      (∃ f ∈ p.files, isKeyword f.target.package = true ∧ spelledApi.Spells f.target.package) ∧
      ∀ a ∈ p.artifacts, isKeyword a.target.package = true →
        spelledApi.Spells a.target.package := by
  obtain ⟨c, p, ok, plan, f, hf, target⟩ := exists_planning_spelledApi
  obtain ⟨p', plan', targets, artifacts⟩ :=
    (reserved_segments .default spelledApi).2 names_spelledApi c ok
  obtain rfl := Option.some.inj (plan.symm.trans plan')
  have keyword : isKeyword f.target.package = true := by
    rw [target]
    decide
  obtain ⟨path, dirs, -, -, spells⟩ := targets f.target (by simp [List.mem_map_of_mem hf])
  exact ⟨names_spelledApi, c, ok, p, plan,
    ⟨f, hf, keyword, spells _ List.mem_cons_self keyword⟩, artifacts⟩

/-- The name `ty_pe` is in a package that is a keyword, and so is what an API declares there. -/
theorem spelledApi_reserved :
    isKeyword (Name.ofIdentifier "ty_pe").segment = true ∧
    (∀ n, spelledApi.Names n → n = .ofIdentifier n.identifier) ∧
    ∃ c p, planning .default spelledApi = .ok c ∧ c.plan = some p ∧
      ∃ f ∈ p.files, f.target = ⟨"type/types.go", "type"⟩ ∧ isKeyword f.target.package = true := by
  obtain ⟨c, p, ok, plan, f, hf, target⟩ := exists_planning_spelledApi
  refine ⟨by decide +kernel, names_spelledApi, c, p, ok, plan, f, hf, target, ?_⟩
  rw [target]
  decide

end SdkLayout
