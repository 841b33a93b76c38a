import SdkLayout.Api.Codec

/-!
# What decoders read back

A decoder may fail in many places and says where. Reading back what was written does not fail, so
that only the decoded value matters: `Decoded.value?` takes all decoding to options, and the places
of members and elements disappear (`value?_inside`, `value?_seq`).

* **Structures.** In an object without repeated keys a field is looked up by its key
  (`structured_object`, `value?_required`, `value?_optional`). The keys of a written object are
  known even where members are left out (`keys_optionalMember`, `lookup_optionalMember`).
* **Lists, sets and tables.** What is read back one by one is read back together (`value?_list`,
  `value?_orderedSet`, `value?_table`).
* **Unions.** A union has to be stored before it is read, which limits how deep it may nest. What
  is written nests a few levels deep whatever it says (`Fits`), and has enough room wherever it is
  written (`Scope.HasRoom`). Then the variant that the tag names reads its fields (`value?_union`).
-/

namespace SdkLayout.Json

variable {α β : Type}

/-! ### Success -/

namespace Decoded

@[simp] theorem value?_ok (a : α) : (Decoded.ok a).value? = some a := rfl

theorem value?_eq_some {x : Decoded α} {a : α} : x.value? = some a ↔ x = .ok a := by
  cases x <;> simp [value?]

@[simp] theorem value?_inside (i : Nat) (x : Decoded α) : (x.inside i).value? = x.value? := by
  cases x <;> rfl

@[simp] theorem value?_map (f : α → β) (x : Decoded α) : (f <$> x).value? = x.value?.map f := by
  cases x <;> rfl

@[simp] theorem value?_seq (f : Decoded (α → β)) (x : Decoded α) :
    (f <*> x).value? = f.value?.bind fun g => x.value?.map g := by
  cases f <;> cases x <;> rfl

end Decoded

namespace Decoder

variable {scope : Scope}

@[simp] theorem value?_string (s : String) : (string scope (.string s)).value? = some s := by
  rw [string, Decoded.value?_ok]

@[simp] theorem value?_bool (b : Bool) : (bool scope (.bool b)).value? = some b := by
  rw [bool, Decoded.value?_ok]

@[simp] theorem value?_word16 (n : UInt16) :
    (word16 scope (.natural n.toNat)).value? = some n := by
  rw [word16, if_pos n.toNat_lt_size, UInt16.ofNat_toNat, Decoded.value?_ok]

end Decoder

/-! ### Members -/

section Members

variable {name key : String}

@[simp] theorem keys_optionalMember (key : String) (v : Option Json) :
    (optionalMember key v).map Prod.fst = if v.isSome then [key] else [] := by
  cases v <;> rfl

@[simp] theorem nodup_ite_singleton {p : Prop} [Decidable p] (key : String) :
    (if p then [key] else []).Nodup := by
  split <;> simp

@[simp] theorem nodup_ite_append {p : Prop} [Decidable p] {keys : List String} :
    ((if p then [key] else []) ++ keys).Nodup ↔ (p → key ∉ keys) ∧ keys.Nodup := by
  by_cases h : p <;> simp [h]

@[simp] theorem forall_mem_optionalMember {v : Option Json} {P : Json → Prop} :
    (∀ name j, (name, j) ∈ optionalMember key v → P j) ↔ ∀ j, v = some j → P j := by
  cases v <;> simp

@[simp] theorem lookup_cons_eq (j : Json) (members : List (String × Json)) :
    ((key, j) :: members).lookup name = if name = key then some j else members.lookup name := by
  rw [List.lookup_cons]
  by_cases h : name = key
  · rw [if_pos h, beq_iff_eq.2 h]
  · rw [if_neg h, beq_eq_false_iff_ne.2 h]

@[simp] theorem lookup_optionalMember (v : Option Json) :
    (optionalMember key v).lookup name = if name = key then v else none := by
  cases v with
  | none => rw [optionalMember_none, List.lookup_nil, ite_self]
  | some j => rw [optionalMember_some, lookup_cons_eq, List.lookup_nil]

@[simp] theorem lookup_optionalMember_append (v : Option Json) (rest : List (String × Json)) :
    (optionalMember key v ++ rest).lookup name =
      if name = key then v.or (rest.lookup name) else rest.lookup name := by
  rw [List.lookup_append, lookup_optionalMember]
  split <;> simp

/-- Where a member is found does not matter for what is found. -/
theorem map_snd_findMember (name : String) (i : Nat) (members : List (String × Json)) :
    (findMember name i members).map Prod.snd = members.lookup name := by
  induction members generalizing i with
  | nil => rfl
  | cons m rest ih =>
    rw [findMember, lookup_cons_eq, ← ih (i + 1)]
    by_cases h : m.1 = name
    · rw [if_pos h, if_pos h.symm, Option.map_some]
    · rw [if_neg h, if_neg (Ne.symm h)]

theorem findRepeated_of_nodup {names seen keys : List String} {i : Nat} (h : keys.Nodup)
    (fresh : ∀ key ∈ keys, key ∉ seen) : findRepeated names i seen keys = none := by
  induction keys generalizing i seen with
  | nil => rfl
  | cons key rest ih =>
    obtain ⟨hkey, hrest⟩ := List.nodup_cons.1 h
    have new : seen.contains key = false := by simpa using fresh key (by simp)
    rw [findRepeated, new, Bool.and_false, if_neg Bool.false_ne_true]
    refine ih hrest fun other hother => ?_
    rw [List.mem_cons, not_or]
    exact ⟨fun same => hkey (same ▸ hother), fresh other (by simp [hother])⟩

end Members

/-! ### Fields -/

namespace Fields

variable {d : Decoder α} {scope : Scope} {write : α → Json}

/-- The fields of a structure that is written as an object. -/
def ofMembers (scope : Scope) (members : List (String × Json)) : Fields :=
  ⟨scope.inner, fun name => findMember name 0 members, members.length⟩

@[simp] theorem scope_ofMembers (scope : Scope) (members : List (String × Json)) :
    (ofMembers scope members).scope = scope.inner := rfl

/-- The value of a field. -/
def value? (fields : Fields) (name : String) : Option Json :=
  (fields.find? name).map Prod.snd

@[simp] theorem value?_ofMembers (scope : Scope) (members : List (String × Json)) (name : String) :
    (ofMembers scope members).value? name = members.lookup name :=
  map_snd_findMember ..

@[simp] theorem value?_required (fields : Fields) (name : String) (d : Decoder α) :
    (fields.required name d).value? =
      (fields.value? name).bind fun j => (d fields.scope j).value? := by
  unfold required value?
  cases fields.find? name with
  | none => rfl
  | some found => exact Decoded.value?_inside ..

@[simp] theorem value?_defaulted (fields : Fields) (name : String) (absent : α) (d : Decoder α) :
    (fields.defaulted name absent d).value? =
      (fields.value? name).elim (some absent) fun j => (d fields.scope j).value? := by
  unfold defaulted value?
  cases fields.find? name with
  | none => rfl
  | some found => exact Decoded.value?_inside ..

/-- What the value of a field that may be absent or null is read as. -/
def readOptional (d : Decoder α) (scope : Scope) : Option Json → Option (Option α)
  | none => some none
  | some .null => some none
  | some j => (d scope j).value?.map some

@[simp] theorem value?_optional (fields : Fields) (name : String) (d : Decoder α) :
    (fields.optional name d).value? = readOptional d fields.scope (fields.value? name) := by
  unfold optional value?
  rcases fields.find? name with _ | ⟨i, j⟩
  · rfl
  · cases j <;> simp [readOptional]

/-- Something optional is read back, if null is not how it is written when it is there. -/
@[simp] theorem readOptional_map {value : Option α}
    (reads : ∀ a, (d scope (write a)).value? = some a) (written : ∀ a, write a ≠ .null) :
    readOptional d scope (value.map write) = some value := by
  cases value with
  | none => rfl
  | some a =>
    rw [Option.map_some, readOptional, reads a, Option.map_some]
    exact written a

/-- It does not matter whether what is absent is written as null or left out. -/
@[simp] theorem readOptional_orNull (value : Option Json) :
    readOptional d scope (some (orNull value)) = readOptional d scope value := by
  cases value <;> rfl

end Fields

/-- An object without repeated keys is read field by field. -/
theorem structured_object {names : List String} {body : Fields → Decoded α} {scope : Scope}
    {members : List (String × Json)} (distinct : (members.map Prod.fst).Nodup) :
    structured names body scope (.object members) = body (.ofMembers scope members) := by
  rw [structured, findRepeated_of_nodup distinct (by simp)]
  rfl

/-! ### Lists, sets and tables -/

section Many

variable {d : Decoder α} {scope : Scope} {write : α → Json} {kind : IdKind}

theorem value?_elementsFrom (reads : ∀ a, (d scope (write a)).value? = some a) (i : Nat)
    (items : List α) : (Decoder.elementsFrom d scope i (items.map write)).value? = some items := by
  induction items generalizing i with
  | nil => rfl
  | cons a rest ih => simp [Decoder.elementsFrom, reads a, ih]

@[simp] theorem value?_list (reads : ∀ a, (d scope.inner (write a)).value? = some a)
    (items : List α) : (Decoder.list d scope (.array (items.map write))).value? = some items :=
  value?_elementsFrom reads 0 items

@[simp] theorem value?_orderedSet [DecidableEq α]
    (reads : ∀ a, (d scope.inner (write a)).value? = some a) (s : OrderedSet α) :
    (Decoder.orderedSet d scope (.array (s.toList.map write))).value? = some s := by
  rw [Decoder.orderedSet, Decoder.map, Decoded.value?_map, value?_list reads, Option.map_some,
    OrderedSet.ofList_toList]

theorem value?_membersFrom (reads : ∀ a, (d scope (write a)).value? = some a) (i : Nat)
    (entries : List (Id kind × α)) :
    (Decoder.membersFrom d scope i (entries.map fun e => (e.1.text, write e.2))).value? =
      some (entries.map fun e => (e.1.text, e.2)) := by
  induction entries generalizing i with
  | nil => rfl
  | cons e rest ih => simp [Decoder.membersFrom, reads, ih]

/-- Keys of a table do not repeat, so that all entries are read back, in their order. -/
@[simp] theorem value?_table (reads : ∀ a, (d scope.inner (write a)).value? = some a)
    (t : Table (Id kind) α) : (Table.decoder d scope (t.toJson write)).value? = some t := by
  rw [Table.decoder, Table.toJson, Decoder.table, Decoded.value?_map, value?_membersFrom reads,
    Option.map_some, List.map_map]
  exact congrArg some ((congrArg Table.ofList (List.map_id t.entries)).trans t.ofList_entries)

end Many

/-! ### Stored values -/

section Stored

theorem nestWithin_iff {levels : Nat} {js : List Json} :
    nestWithin levels js = true ↔ ∀ j ∈ js, nestsWithin levels j = true := by
  induction js with
  | nil => simp [nestWithin]
  | cons j rest ih => simp [nestWithin, ih]

theorem membersNestWithin_iff {levels : Nat} {members : List (String × Json)} :
    membersNestWithin levels members = true ↔ ∀ m ∈ members, nestsWithin levels m.2 = true := by
  induction members with
  | nil => simp [membersNestWithin]
  | cons m rest ih => simp [membersNestWithin, ih]

theorem arePlain_iff {js : List Json} : arePlain js = true ↔ ∀ j ∈ js, isPlain j = true := by
  induction js with
  | nil => simp [arePlain]
  | cons j rest ih => simp [arePlain, ih]

theorem membersArePlain_iff {members : List (String × Json)} :
    membersArePlain members = true ↔ ∀ m ∈ members, isPlain m.2 = true := by
  induction members with
  | nil => simp [membersArePlain]
  | cons m rest ih => simp [membersArePlain, ih]

/-- A value that can be stored where containers may nest the given number of levels deep. -/
def Fits (levels : Nat) (j : Json) : Prop :=
  nestsWithin levels j = true ∧ isPlain j = true

@[simp] theorem fits_string (levels : Nat) (s : String) : Fits levels (.string s) :=
  ⟨by simp [nestsWithin], by simp [isPlain]⟩

@[simp] theorem fits_array {levels : Nat} {js : List Json} :
    Fits (levels + 1) (.array js) ↔ ∀ j ∈ js, Fits levels j := by
  simp [Fits, nestsWithin, isPlain, nestWithin_iff, arePlain_iff, forall_and]

@[simp] theorem fits_object {levels : Nat} {members : List (String × Json)} :
    Fits (levels + 1) (.object members) ↔ ∀ m ∈ members, Fits levels m.2 := by
  simp [Fits, nestsWithin, isPlain, membersNestWithin_iff, membersArePlain_iff, forall_and]

/-- In a scope with room for some levels a union that fits into them can be stored. Within a stored
value everything is stored already. -/
def Scope.HasRoom (levels : Nat) (scope : Scope) : Prop :=
  scope.stored = true ∨ scope.depth + levels ≤ depthLimit

theorem Scope.HasRoom.inner {scope : Scope} {levels : Nat} (h : scope.HasRoom (levels + 1)) :
    scope.inner.HasRoom levels := by
  refine h.imp id fun room => ?_
  change scope.depth + 1 + levels ≤ depthLimit
  omega

theorem Scope.HasRoom.mono {scope : Scope} {levels fewer : Nat} (h : scope.HasRoom levels)
    (le : fewer ≤ levels) : scope.HasRoom fewer :=
  h.imp id fun room => Nat.le_trans (Nat.add_le_add_left le _) room

/-- A union is read as the variant that its tag names. -/
theorem value?_union {variants : List (String × Decoder α)} {names : List String}
    {body : Fields → Decoded α} {scope : Scope} {levels : Nat} {j : Json} {tag : String}
    {contents : List (String × Json)} (room : scope.HasRoom levels)
    (fits : ∀ more, Fits (more + levels) j)
    (written : j = .object (("type", .string tag) :: contents))
    (distinct : ((("type", Json.string tag) :: contents).map Prod.fst).Nodup)
    (found : variants.lookup tag = some (structured names body)) :
    (union variants scope j).value? =
      (body (.ofMembers { scope with stored := true } contents)).value? := by
  subst written
  obtain ⟨untagged, distinct⟩ := List.nodup_cons.1 distinct
  -- Values are stored until the tag is known, which limits how deep they may nest.
  have storable : (!scope.stored
      && !(Json.object (("type", .string tag) :: contents)).isStorable scope.depth) = false := by
    rcases room with stored | room
    · rw [stored]
      rfl
    · have limit : depthLimit - scope.depth = depthLimit - scope.depth - levels + levels := by omega
      obtain ⟨nests, plain⟩ := fits (depthLimit - scope.depth - levels)
      rw [isStorable, limit, nests, plain]
      exact Bool.and_false _
  have other : ∀ m ∈ contents, (m.1 == "type") = false := fun m hm =>
    beq_eq_false_iff_ne.2 fun same => untagged (List.mem_map.2 ⟨m, hm, same⟩)
  -- The tag is the only member with its name, so that the contents are what is left without it.
  have tags : (("type", Json.string tag) :: contents).filter (fun m => m.1 == "type") =
      [("type", .string tag)] := by
    rw [List.filter_cons_of_pos (by simp),
      List.filter_eq_nil_iff.2 fun m hm => Bool.eq_false_iff.1 (other m hm)]
  have rest : (("type", Json.string tag) :: contents).filter (fun m => m.1 != "type") =
      contents := by
    rw [List.filter_cons_of_neg (by simp),
      List.filter_eq_self.2 fun m hm => by rw [bne, other m hm, Bool.not_false]]
  unfold union
  rw [storable, if_neg Bool.false_ne_true]
  simp only [tags, rest, decodeVariant, pickVariant, found, structured_object distinct]
  cases body (.ofMembers { scope with stored := true } contents) <;> rfl

end Stored

end SdkLayout.Json
