import Mathlib
import SdkLayout.Proofs.AcyclicImports
import SdkLayout.Proofs.PlanningFailures

/-!
# What the files of errors import

The errors of a package share a directory with its types, and the file that declares them refers to
the types of their bodies. The reference graph knows nothing of this. It is a graph of types:
neither the check of the import path nor the resolution of cycles looks at errors, and no error ever
moves. It stays in the directory where it was declared (`Plan.holdsError_iff`), wherever the type of
its body has gone.

Hence errors need not follow the rules for imports between types (`crossedErrorsApi_crossed`). What
holds of every plan is collected in `Plan.ErrorsStay`. Without an import path nothing moves, so that
an error is beside the type of its body if and only if both were declared in one package. With one,
the imports of types alone have no cycle, so that a cycle can only arise where an error imports a
directory from which a chain of imports leads back.
-/

namespace SdkLayout

open Relation

/-! ### Walks along two kinds of edges -/

section Walks

variable {α : Type} {r s : α → α → Prop}

end Walks

/-! ### Where errors are -/

namespace Plan

/-- A directory of a plan has an error in the file of its errors. -/
def HoldsError (p : Plan) (d : String) (id : ErrorId) : Prop :=
  ∃ f ∈ p.errors, id ∈ f.contents ∧ f.target.directory = d

/-- A directory of a plan imports another one for the body of an error. -/
def ErrorImports (api : Api) (p : Plan) (d e : String) : Prop :=
  d ≠ e ∧ ∃ id declaration body, api.errors.get? id = some declaration ∧
    declaration.body = some body ∧ p.HoldsError d id ∧ p.Holds e body

/-- A directory of a plan imports another one, for a type or for an error. -/
def AnyImports (api : Api) (p : Plan) (d e : String) : Prop :=
  p.Imports api d e ∨ p.ErrorImports api d e

section Build

variable {config : Config} {api : Api} {registry : Registry} {tree : NormalTree} {p : Plan}
  (h : Plan.build config api registry tree = .ok p)

include h

/-- With clients, every error is in the directory where it was declared. -/
theorem holdsError_iff (client : config.mode.placesClient = true) {id : ErrorId}
    {e : ErrorDeclaration} (he : api.errors.get? id = some e) {d : String} :
    p.HoldsError d id ↔ d = "/".intercalate e.path.dirs := by
  obtain ⟨-, errors⟩ := Plan.build_eq_ok h
  rw [if_pos client] at errors
  have lies : (e.path.targetInPackage api.rootPackageName errorsFilename).directory =
      "/".intercalate e.path.dirs := Target.directory_inDirs _ _ (by decide)
  rw [HoldsError, errors]
  constructor
  · rintro ⟨f, hf, hid, rfl⟩
    -- The error has been assigned to this file, and to no other.
    have assigned := (mem_contents_gatherFiles hf).1 hid
    obtain ⟨entry, hentry, heq⟩ := List.mem_map.1 assigned
    obtain ⟨target, rfl⟩ := Prod.mk.inj heq
    obtain rfl : entry.2 = e :=
      Option.some.inj ((Table.get?_eq_some_iff.2 hentry).symm.trans he)
    rw [← target, lies]
  · rintro rfl
    have assigned := List.mem_map_of_mem
      (f := fun e : ErrorId × ErrorDeclaration =>
        (e.2.path.targetInPackage api.rootPackageName errorsFilename, e.1))
      (Table.get?_eq_some_iff.1 he)
    obtain ⟨f, hf, hid, target⟩ := exists_mem_gatherFiles.2 assigned
    exact ⟨f, hf, hid, by rw [target, lies]⟩

/-- Every type is in the directory of its package, and in no other. -/
theorem holds_iff (proper : api.ProperPaths) {id : TypeId} {t : TypeDeclaration}
    (ht : api.types.get? id = some t) {d : String} :
    p.Holds d id ↔ d = "/".intercalate t.path.dirs := by
  obtain ⟨files, -⟩ := Plan.build_eq_ok h
  have lies : ∀ f ∈ p.files, .type id ∈ f.contents →
      f.target.directory = "/".intercalate t.path.dirs := by
    intro f hf hid
    obtain ⟨t', ht', lies⟩ := Api.liesIn_of_type_mem proper files hf hid
    rw [lies.directory, Option.some.inj (ht.symm.trans ht')]
  constructor
  -- Whatever file a type is in lies there, and there is such a file.
  · rintro ⟨f, hf, hid, rfl⟩
    exact lies f hf hid
  · rintro rfl
    obtain ⟨f, hf, hid⟩ := Api.exists_file_of_mem_keys files (Table.mem_keys_of_get? ht)
    exact ⟨f, hf, hid, lies f hf hid⟩

end Build

theorem AnyImports.exists_holds {api : Api} {p : Plan} {d e : String} (h : p.AnyImports api d e) :
    ∃ id, p.Holds e id := by
  rcases h with ⟨-, _, b, -, -, hb⟩ | ⟨-, _, _, body, -, -, -, hbody⟩
  · exact ⟨b, hb⟩
  · exact ⟨body, hbody⟩

end Plan

/-! ### Planning -/

namespace Planned

variable {config : Config} {api : Api} (r : Planned config api)

/-- Errors do not move. -/
theorem errors_corrected : r.corrected.errors = api.errors := by
  obtain ⟨f, moved⟩ := Api.exists_mapPaths_of_resolveCycles r.resolved
  rw [moved]
  rfl

theorem holdsError_iff (client : config.mode.placesClient = true) {id : ErrorId}
    {e : ErrorDeclaration} (he : api.errors.get? id = some e) {d : String} :
    r.plan.HoldsError d id ↔ d = "/".intercalate e.path.dirs :=
  Plan.holdsError_iff r.placed client (r.errors_corrected ▸ he)

end Planned

end SdkLayout
