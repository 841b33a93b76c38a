import Mathlib
import SdkLayout.Proofs.CycleReports
import SdkLayout.Proofs.RoundTrip

/-!
# The two spellings of a path

A path is written twice, as all its parts and as package path and file, and both spellings have the
same identifiers. Decoding accepts exactly the documents in which they do (`decoder_eq_ok_iff`); how
the parts are written in other casings is kept as it is, and may differ.

**Every path that is held.** Paths come from documents or are built, and then they are rewritten: a
file becomes a package, a type moves to the shared package. Whatever is done in whatever order, the
spellings agree (`Held.agrees`). Rewriting either leaves a path alone or builds it anew from its
package path and file, so that no casing can get between the two. That is why each of these paths
can be written and read back, and why to rewrite it again changes nothing (`held_consistent`).
-/

namespace SdkLayout

open Json

namespace DeclarationPath

/-! ### Spellings -/

namespace Spelling

/-- Both spellings have the same identifiers, in the same order and number. -/
def Agrees (s : Spelling) : Prop :=
  List.Forall₂ (fun a b => a.identifier = b.identifier) s.allParts (s.packagePath ++ s.file.toList)

theorem agrees_iff {s : Spelling} :
    s.Agrees ↔
      s.allParts.map Name.identifier = (s.packagePath ++ s.file.toList).map Name.identifier := by
  rw [Agrees, ← List.forall₂_eq_eq_eq, List.forall₂_map_left_iff, List.forall₂_map_right_iff]

end Spelling

/-- Both spellings of a path. -/
def spelling (p : DeclarationPath) : Spelling :=
  ⟨p.allParts, p.packagePath, p.file⟩

theorem path?_eq_some_iff {s : Spelling} {p : DeclarationPath} :
    s.path? = some p ↔ s.Agrees ∧ p.spelling = s := by
  rw [Spelling.path?, Spelling.agrees_iff]
  constructor
  · intro h
    split at h
    · next agree =>
      obtain rfl := Option.some.inj h
      exact ⟨agree, rfl⟩
    · exact absurd h (by simp)
  · rintro ⟨agree, rfl⟩
    exact dif_pos agree

/-- **Decoding accepts a path if and only if its spellings agree**, and keeps both. -/
theorem decoder_eq_ok_iff {scope : Scope} {j : Json} {p : DeclarationPath} :
    decoder scope j = .ok p ↔
      ∃ s, Spelling.decoder scope j = .ok s ∧ s.Agrees ∧ p.spelling = s := by
  simp only [← path?_eq_some_iff]
  unfold decoder
  cases Spelling.decoder scope j with
  | fault f => simp
  | ok s => cases found : s.path? <;> simp [found]

/-! ### Paths that are held -/

/-- A path that comes from a document or is built, rewritten any number of times. -/
inductive Held : DeclarationPath → Prop
  | decoded {scope : Scope} {j : Json} {p : DeclarationPath} : decoder scope j = .ok p → Held p
  | new (packagePath : List Name) (file : Option Name) : Held (.new packagePath file)
  | root : Held .root
  | withFileAsPackage {p : DeclarationPath} : Held p → Held p.withFileAsPackage
  | shared {p : DeclarationPath} : Held p → Held p.shared

theorem agrees_new (packagePath : List Name) (file : Option Name) :
    (new packagePath file).spelling.Agrees :=
  List.forall₂_same.2 fun _ _ => rfl

/-- To turn a file into a package leaves a path alone or builds it anew. -/
theorem withFileAsPackage_cases (p : DeclarationPath) :
    p.withFileAsPackage = p ∨
      ∃ file, p.file = some file ∧ p.withFileAsPackage = .new (p.packagePath ++ [file]) none := by
  unfold withFileAsPackage
  cases p.file with
  | none => exact .inl rfl
  | some file => exact .inr ⟨file, rfl, rfl⟩

/-- To move to the shared package leaves a path alone or builds it anew. -/
theorem shared_cases (p : DeclarationPath) :
    p.shared = p ∨ ∃ packagePath file, p.shared = .new packagePath file := by
  unfold shared
  split
  · exact .inl rfl
  · exact .inr ⟨_, _, rfl⟩

/-- **Whatever is done to paths, their spellings agree.** -/
theorem Held.agrees {p : DeclarationPath} (h : Held p) : p.spelling.Agrees := by
  -- Only a decoded path has a spelling of its own. All others are built anew, if they change at
  -- all.
  induction h with
  | decoded accepted =>
    obtain ⟨s, -, agrees, rfl⟩ := decoder_eq_ok_iff.1 accepted
    exact agrees
  | new packagePath file => exact agrees_new packagePath file
  | root => exact agrees_new [] none
  | @withFileAsPackage p _ ih =>
    rcases p.withFileAsPackage_cases with same | ⟨file, -, built⟩
    · rwa [same]
    · rw [built]
      exact agrees_new _ _
  | @shared p _ ih =>
    rcases p.shared_cases with same | ⟨packagePath, file, built⟩
    · rwa [same]
    · rw [built]
      exact agrees_new _ _

theorem withFileAsPackage_withFileAsPackage (p : DeclarationPath) :
    p.withFileAsPackage.withFileAsPackage = p.withFileAsPackage := by
  rcases p.withFileAsPackage.withFileAsPackage_cases with same | ⟨file, there, -⟩
  · exact same
  · exact absurd (p.file_withFileAsPackage.symm.trans there) nofun

/-- What the two spellings of a path owe to each other and to rewriting. -/
structure Consistent (p : DeclarationPath) : Prop where
  agrees : p.spelling.Agrees
  /-- A path is read back from what is written of it. -/
  readBack : ∀ scope, decoder scope p.toJson = .ok p
  /-- There is no file left to turn into a package. -/
  asPackage : p.withFileAsPackage.withFileAsPackage = p.withFileAsPackage
  display : p.withFileAsPackage.display = p.display
  /-- In the shared package a path stays. -/
  shared : p.shared.shared = p.shared

/-- **The path invariant.** Decoding accepts a path if and only if its two spellings agree, and
every path that is held is consistent. -/
theorem held_consistent :
    (∀ scope j p, decoder scope j = .ok p ↔
      ∃ s, Spelling.decoder scope j = .ok s ∧ s.Agrees ∧ p.spelling = s) ∧
    ∀ p, Held p → Consistent p := by
  refine ⟨fun scope j p => decoder_eq_ok_iff, fun p held => ?_⟩
  exact
    { agrees := held.agrees
      readBack := fun scope => Decoded.value?_eq_some.1 p.decoder_toJson
      asPackage := p.withFileAsPackage_withFileAsPackage
      display := p.display_withFileAsPackage
      shared := p.shared_shared }

/-- A path of a document that spells the same package in two ways. -/
def looselySpelled : DeclarationPath where
  allParts :=
    [{ Name.ofIdentifier "users" with pascal := ⟨"USERS", "USERS"⟩ }, .ofIdentifier "user"]
  packagePath := [.ofIdentifier "users"]
  file := some (.ofIdentifier "user")
  agree := rfl

theorem held_consistent_looselySpelled :
    looselySpelled.allParts ≠ looselySpelled.packagePath ++ looselySpelled.file.toList ∧
    Held looselySpelled ∧ Consistent looselySpelled ∧
    Held looselySpelled.withFileAsPackage.shared ∧
    Consistent looselySpelled.withFileAsPackage.shared := by
  have accepted : decoder .top looselySpelled.toJson = .ok looselySpelled :=
    Decoded.value?_eq_some.1 looselySpelled.decoder_toJson
  have held : Held looselySpelled := .decoded accepted
  refine ⟨by decide +kernel, held, held_consistent.2 _ held, held.withFileAsPackage.shared, ?_⟩
  exact held_consistent.2 _ held.withFileAsPackage.shared

end DeclarationPath

end SdkLayout
