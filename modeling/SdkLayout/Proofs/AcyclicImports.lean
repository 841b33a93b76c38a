import Mathlib
import SdkLayout.Proofs.PackageConsistency
import SdkLayout.Proofs.Phases
import SdkLayout.Proofs.Resolution

/-!
# Planned packages do not import each other in a circle

The directories of a plan import each other where the types in them refer to each other
(`Plan.Imports`). Resolution leaves no cycle of packages, but nothing checks the directories again
after types were put into files, some of them into files of services. That there is no cycle of
directories (`planning_imports_acyclic`) takes three steps:

* moving types keeps paths proper (`Api.ProperPaths.resolveCycles`), the shared package being proper
  itself;
* so every type stays in the directory of its package, and the directory determines the package
  that the reference graph knows (`Plan.packageOf_of_holds`);
* so an import between directories is an edge of the import graph (`Plan.edge_of_imports`), and this
  graph has no cycles.
-/

namespace SdkLayout

open Relation

/-! ### Moves keep paths proper -/

namespace DeclarationPath

variable {path : DeclarationPath}

/-- The packages of the shared path are the shared package and, at most, the innermost one. -/
theorem forall_packagePath_shared {P : Name → Prop} (shared : P (.ofIdentifier sharedName))
    (h : ∀ n ∈ path.packagePath, P n) : ∀ n ∈ path.shared.packagePath, P n := by
  unfold DeclarationPath.shared
  split
  · exact h
  · rw [packagePath_new]
    refine List.forall_mem_cons.2 ⟨shared, fun n hn => ?_⟩
    exact h n (List.mem_of_getLast? (Option.mem_toList.1 hn))

theorem ProperPackages.shared (h : path.ProperPackages) : path.shared.ProperPackages :=
  forall_packagePath_shared (by decide +kernel) h

theorem ProperFile.shared (h : path.ProperFile) : path.shared.ProperFile := by
  unfold DeclarationPath.shared
  split
  · exact h
  · rintro n hn
    obtain rfl : Name.ofIdentifier sharedName = n := Option.some.inj hn
    decide +kernel

end DeclarationPath

namespace Api

variable {api : Api}

theorem ProperPaths.resolveCycles (proper : api.ProperPaths) {importPath : String}
    {corrected : Api} {report : CycleReport}
    (h : api.resolveCycles importPath = .ok (corrected, report)) : corrected.ProperPaths := by
  have types := path_of_resolveCycles h (P := fun p => p.ProperPackages ∧ p.ProperFile)
    (fun p hp => ⟨hp.1.shared, hp.2.shared⟩) fun id t ht => proper.type ht
  obtain ⟨f, rfl⟩ := exists_mapPaths_of_resolveCycles h
  exact ⟨fun e he => types e.1 e.2 (Table.get?_eq_some_iff.2 he), proper.services⟩

end Api

/-! ### Imports between directories -/

namespace Plan

/-- A directory of a plan has a type in one of its files. -/
def Holds (p : Plan) (d : String) (id : TypeId) : Prop :=
  ∃ f ∈ p.files, .type id ∈ f.contents ∧ f.target.directory = d

/-- A directory of a plan imports another one: a type in it refers to a type in the other. -/
def Imports (api : Api) (p : Plan) (d e : String) : Prop :=
  d ≠ e ∧ ∃ a b, api.Refers a b ∧ p.Holds d a ∧ p.Holds e b

theorem imports_congr {api api' : Api} (refers : api.Refers = api'.Refers) (p : Plan) :
    p.Imports api = p.Imports api' := by
  unfold Imports
  rw [refers]

section Build

variable {config : Config} {api : Api} {registry : Registry} {tree : NormalTree} {p : Plan}
  (h : Plan.build config api registry tree = .ok p)

include h

theorem exists_holds {id : TypeId} (hid : id ∈ api.types.keys) : ∃ d, p.Holds d id := by
  obtain ⟨hfiles, -⟩ := Plan.build_eq_ok h
  obtain ⟨f, hf, hmem⟩ := Api.exists_file_of_mem_keys hfiles hid
  exact ⟨f.target.directory, f, hf, hmem, rfl⟩

variable (proper : api.ProperPaths) (importPath : String)

include proper

/-- The directory that holds a type determines the package that the reference graph has it in. -/
theorem packageOf_of_holds {d : String} {id : TypeId} (hd : p.Holds d id) :
    (ReferenceGraph.ofApi api importPath).packageOf id = some (identityIn importPath d) := by
  obtain ⟨f, hf, hid, rfl⟩ := hd
  obtain ⟨hfiles, -⟩ := Plan.build_eq_ok h
  obtain ⟨t, ht, lies⟩ := Api.liesIn_of_type_mem proper hfiles hf hid
  obtain ⟨packages, -⟩ := proper.type ht
  rw [ReferenceGraph.packageOf_ofApi, ht, Option.map_some, packageIdentity_eq packages,
    lies.directory]

theorem edge_of_imports {d e : String} (hde : p.Imports api d e) :
    (ReferenceGraph.ofApi api importPath).importGraph.Edge (identityIn importPath d)
      (identityIn importPath e) := by
  obtain ⟨hne, a, b, refers, ha, hb⟩ := hde
  have hpa := packageOf_of_holds h proper importPath ha
  have hpb := packageOf_of_holds h proper importPath hb
  refine ReferenceGraph.edge_importGraph.2 ⟨?_, (a, b), ?_, hpa, hpb⟩
  · exact fun same => hne (identityIn_injective importPath same)
  · refine (ReferenceGraph.mem_references_ofApi api importPath).2 ⟨refers, ?_⟩
    rintro rfl
    -- The same type would be in both packages.
    exact hne (identityIn_injective importPath (Option.some.inj (hpa.symm.trans hpb)))

variable (none : (ReferenceGraph.ofApi api importPath).importGraph.cycles = [])

include none

/-- Without import cycles between packages, there are none between directories. -/
theorem not_imports_closed (d : String) : ¬ TransGen (p.Imports api) d d := by
  intro walk
  refine Digraph.acyclic_of_cycles_eq_nil (ReferenceGraph.edgesInside_importGraph _) none
    (ReferenceGraph.not_edge_importGraph_self _) (identityIn importPath d) ?_
  -- Directories are mapped to packages edge by edge.
  refine TransGen.lift (identityIn importPath) ?_ _ _ walk
  exact fun _ _ => edge_of_imports h proper importPath

/-- Without import cycles between packages, types that refer to each other by chains of references
are in one directory. -/
theorem directory_eq_of_refers {a b : TypeId} (hab : ReflTransGen api.Refers a b)
    (hba : ReflTransGen api.Refers b a) {d e : String} (hd : p.Holds d a) (he : p.Holds e b) :
    d = e := by
  have ha := packageOf_of_holds h proper importPath hd
  have hb := packageOf_of_holds h proper importPath he
  have node : identityIn importPath d ∈ (ReferenceGraph.ofApi api importPath).importGraph.nodes :=
    ReferenceGraph.mem_nodes_importGraph.2 ⟨a, ha⟩
  refine identityIn_injective importPath ?_
  exact Digraph.eq_of_cycles_eq_nil (ReferenceGraph.edgesInside_importGraph _) none node
    (ReferenceGraph.reaches_of_refers hab ha hb) (ReferenceGraph.reaches_of_refers hba hb ha)

/-- Such types are in the same directory, and in no other. -/
theorem exists_directory (known : api.ReferencesKnown) {a b : TypeId}
    (hab : TransGen api.Refers a b) (hba : TransGen api.Refers b a) :
    ∃ d, (∀ e, p.Holds e a ↔ e = d) ∧ ∀ e, p.Holds e b ↔ e = d := by
  have keys := Api.referencesKnown_iff.1 known
  -- Both types are referred to, hence types of the API, hence in some file.
  obtain ⟨c, -, hca⟩ := TransGen.tail'_iff.1 hba
  obtain ⟨c', -, hcb⟩ := TransGen.tail'_iff.1 hab
  obtain ⟨d, hd⟩ := exists_holds h (keys c a hca)
  obtain ⟨d', hd'⟩ := exists_holds h (keys c' b hcb)
  have there := hab.to_reflTransGen
  have back := hba.to_reflTransGen
  have same : d = d' := directory_eq_of_refers h proper importPath none there back hd hd'
  refine ⟨d, fun e => ⟨fun he => ?_, ?_⟩, fun e => ⟨fun he => ?_, ?_⟩⟩
  · exact directory_eq_of_refers h proper importPath none .refl .refl he hd
  · rintro rfl
    exact hd
  · exact (directory_eq_of_refers h proper importPath none there back hd he).symm
  · rintro rfl
    rwa [same]

end Build

end Plan

/-- **Planned packages never import each other in a circle**, whatever the strategy, the mode and
the moves that were made. Types that reach each other through references are in one directory. -/
theorem planning_imports_acyclic {config : Config} {api : Api} {c : Context}
    (proper : api.ProperPaths) (h : planning config api = .ok c) :
    ∃ p, c.plan = some p ∧ (∀ d, ¬ TransGen (p.Imports api) d d) ∧
      ∀ a b, TransGen api.Refers a b → TransGen api.Refers b a →
        ∃ d, (∀ e, p.Holds e a ↔ e = d) ∧ ∀ e, p.Holds e b ↔ e = d := by
  obtain ⟨r, rfl⟩ := planning_eq_ok_iff.1 h
  obtain ⟨n, t, run, corrected, -, known, none⟩ := Api.resolveCycles_eq_ok r.resolved
  have proper' : r.corrected.ProperPaths := proper.resolveCycles r.resolved
  -- Types move, references do not.
  have refers : r.corrected.Refers = api.Refers := by
    obtain ⟨f, hf⟩ := run.exists_mapPaths
    funext a b
    rw [corrected, hf, Api.refers_mapPaths]
  rw [← refers]
  refine ⟨r.plan, rfl, fun d => ?_, fun a b hab hba => ?_⟩
  · rw [← Plan.imports_congr refers]
    exact Plan.not_imports_closed r.placed proper' config.importPath none d
  · exact Plan.exists_directory r.placed proper' config.importPath none known hab hba

/-- An API whose root package and another one import each other. -/
def mutualApi : Api :=
  Api.empty (.ofIdentifier "acme")
    |>.addObject "A" .root ["B"]
    |>.addObject "B" (.ofIdentifiers ["x"] none) ["A"]

/-- The same API after both types have moved. -/
def mutualApiShared : Api :=
  mutualApi.mapPaths fun _ _ => .ofIdentifiers [sharedName] (some sharedName)

theorem planning_imports_acyclic_mutualApi :
    mutualApi.ProperPaths ∧
      ∃ c, planning { Config.default with importPath := "m" } mutualApi = .ok c ∧
        ∃ p, c.plan = some p ∧ (∀ d, ¬ TransGen (p.Imports mutualApi) d d) ∧
          ∀ a b, TransGen mutualApi.Refers a b → TransGen mutualApi.Refers b a →
            ∃ d, (∀ e, p.Holds e a ↔ e = d) ∧ ∀ e, p.Holds e b ↔ e = d := by
  have proper : mutualApi.ProperPaths := by decide +kernel
  have known : mutualApi.ReferencesKnown := by decide
  obtain ⟨report, resolved⟩ :
      ∃ report, mutualApi.resolveCycles "m" = .ok (mutualApiShared, report) := by
    have moved : match mutualApi.resolveCycles "m" with
        | .ok x => x.1 = mutualApiShared
        | .error _ => False := by cbv
    split at moved
    · next x answer => exact ⟨x.2, by rw [answer, ← moved]⟩
    · exact moved.elim
  -- Only the resolver is evaluated. The later phases cannot fail once it has an answer.
  obtain ⟨c, h⟩ : ∃ c, planning { Config.default with importPath := "m" } mutualApi = .ok c :=
    ⟨_, planning_eq_ok_iff.2 ⟨⟨_, ReferenceGraph.build_of_known known "m", rfl, _, report, resolved,
      _, rfl, _, rfl⟩, rfl⟩⟩
  exact ⟨proper, c, h, planning_imports_acyclic proper h⟩

end SdkLayout
