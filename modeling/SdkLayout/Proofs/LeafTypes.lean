import Mathlib
import SdkLayout.Proofs.LeafGroups

/-!
# Leaf groups of types that do not refer to each other in a circle

Where no type reaches itself through other types (`Api.TypesAcyclic`), groups of types that refer to
each other have one member. The leaf groups of a cycle of packages then are the implicated types
that refer to no other implicated type (`ReferenceGraph.mem_leafGroups_of_acyclic`), one by one.
-/

namespace SdkLayout

open Relation

/-! ### Types that do not refer to each other in a circle -/

namespace Api

variable {api : Api}

/-- One type refers to another one that is not itself. -/
def RefersToOther (api : Api) (a b : TypeId) : Prop :=
  api.Refers a b ∧ a ≠ b

/-- No type reaches itself through references to other types. -/
def TypesAcyclic (api : Api) : Prop :=
  ∀ a, ¬ TransGen api.RefersToOther a a

theorem RefersToOther.transGen_of_reflTransGen {a b : TypeId}
    (path : ReflTransGen api.RefersToOther a b) (hne : a ≠ b) : TransGen api.RefersToOther a b := by
  rcases reflTransGen_iff_eq_or_transGen.1 path with rfl | walk
  · exact absurd rfl hne
  · exact walk

/-- Types that only refer to themselves and to later types of the document do not refer to each
other in a circle. -/
theorem typesAcyclic_of_later
    (later : ∀ e ∈ api.types.entries, ∀ b ∈ e.2.references.toList, e.1 ≠ b →
      api.types.keys.idxOf e.1 < api.types.keys.idxOf b) : api.TypesAcyclic := by
  have rises : ∀ {a b}, TransGen api.RefersToOther a b →
      api.types.keys.idxOf a < api.types.keys.idxOf b := by
    intro a b walk
    have step : ∀ a b, api.RefersToOther a b →
        api.types.keys.idxOf a < api.types.keys.idxOf b := by
      rintro a b ⟨⟨t, ht, hb⟩, hne⟩
      exact later (a, t) (Table.get?_eq_some_iff.1 ht) b hb hne
    induction walk with
    | single h => exact step _ _ h
    | tail _ h ih => exact ih.trans (step _ _ h)
  exact fun a walk => Nat.lt_irrefl _ (rises walk)

end Api

namespace ReferenceGraph

variable {api : Api} {importPath : String} {cycle : List String}

theorem refersToOther_of_refersAmong {a b : TypeId}
    (h : (ofApi api importPath).RefersAmong cycle a b) : api.RefersToOther a b :=
  (mem_references_ofApi api importPath).1 h.1

/-- Implicated types that reach each other are the same where types do not refer in a circle. -/
theorem eq_of_reaches_among (acyclic : api.TypesAcyclic) {a b : TypeId}
    (there : ReflTransGen ((ofApi api importPath).RefersAmong cycle) a b)
    (back : ReflTransGen ((ofApi api importPath).RefersAmong cycle) b a) : b = a := by
  have chain : ∀ {x y}, ReflTransGen ((ofApi api importPath).RefersAmong cycle) x y →
      ReflTransGen api.RefersToOther x y :=
    fun path => ReflTransGen.mono (fun _ _ => refersToOther_of_refersAmong) _ _ path
  by_contra hne
  have out := Api.RefersToOther.transGen_of_reflTransGen (chain there) (Ne.symm hne)
  have home := Api.RefersToOther.transGen_of_reflTransGen (chain back) hne
  exact acyclic a (out.trans home)

/-- An implicated type that refers to no other one is a leaf group by itself. -/
theorem isLeafGroup_singleton (acyclic : api.TypesAcyclic) {a : TypeId}
    (ha : a ∈ (ofApi api importPath).implicated cycle)
    (leaf : ∀ b ∈ (ofApi api importPath).implicated cycle, ¬ api.RefersToOther a b) :
    (ofApi api importPath).IsLeafGroup cycle [a] where
  nonempty := List.cons_ne_nil _ _
  ascending := List.pairwise_singleton ..
  implicated := by
    intro b hb
    obtain rfl := List.mem_singleton.1 hb
    exact mem_implicated_iff.1 ha
  whole := by
    intro b hb d
    obtain rfl := List.mem_singleton.1 hb
    rw [List.mem_singleton]
    constructor
    · rintro rfl
      exact ⟨.refl, .refl⟩
    -- A type that is reached and reaches back is the type itself.
    · rintro ⟨there, back⟩
      exact eq_of_reaches_among acyclic there back
  closed := by
    intro b hb d refers
    obtain rfl := List.mem_singleton.1 hb
    -- A reference that leaves the group would be one to another implicated type.
    have hd := mem_implicated_iff.2 refers.2.2
    exact absurd (refersToOther_of_refersAmong refers) (leaf d hd)

/-- **The leaf groups of types without circles** are the implicated types that refer to no other
implicated type. -/
theorem mem_leafGroups_of_acyclic (acyclic : api.TypesAcyclic) {group : List TypeId} :
    group ∈ (ofApi api importPath).leafGroups cycle ↔
      ∃ a ∈ (ofApi api importPath).implicated cycle, group = [a] ∧
        ∀ b ∈ (ofApi api importPath).implicated cycle, ¬ api.RefersToOther a b := by
  rw [mem_leafGroups]
  constructor
  · intro leaf
    obtain ⟨a, ha⟩ := List.exists_mem_of_ne_nil group leaf.nonempty
    have implicated := leaf.implicated a ha
    -- A type that a member refers to would be a member as well, and there is no other.
    have last : ∀ b ∈ (ofApi api importPath).implicated cycle, ¬ api.RefersToOther a b := by
      intro b hb refers
      have step : (ofApi api importPath).RefersAmong cycle a b :=
        ⟨(mem_references_ofApi api importPath).2 refers, implicated, mem_implicated_iff.1 hb⟩
      obtain ⟨there, back⟩ := (leaf.whole a ha b).1 (leaf.closed a ha b step)
      exact refers.2 (eq_of_reaches_among acyclic there back).symm
    have ha' := mem_implicated_iff.2 implicated
    have alone := isLeafGroup_singleton acyclic ha' last
    exact ⟨a, ha', leaf.eq_of_mem alone ha (List.mem_singleton_self a), last⟩
  · rintro ⟨a, ha, rfl, leaf⟩
    exact isLeafGroup_singleton acyclic ha leaf

end ReferenceGraph

end SdkLayout
