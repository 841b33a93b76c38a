/-!
# Tables and sets in document order

A `Table` maps keys to values and remembers the order in which the keys came. Inserting under a
key that is there already replaces the value and keeps its place. An `OrderedSet` keeps the first
occurrence of each member. That keys and members do not repeat is part of the types.
-/

namespace SdkLayout

/-- A finite map whose entries keep the order in which their keys came. -/
structure Table (κ : Type) (α : Type) where
  entries : List (κ × α)
  /-- No key occurs twice. -/
  nodup : (entries.map Prod.fst).Nodup

namespace Table

variable {κ α β : Type}

@[ext] theorem ext {s t : Table κ α} (h : s.entries = t.entries) : s = t := by
  cases s; cases t; cases h; rfl

instance [DecidableEq κ] [DecidableEq α] : DecidableEq (Table κ α) := fun s t =>
  if h : s.entries = t.entries then isTrue (ext h) else isFalse fun e => h (congrArg entries e)

/-- The table without entries. -/
def empty : Table κ α :=
  ⟨[], List.nodup_nil⟩

instance : Inhabited (Table κ α) := ⟨empty⟩

/-- The keys, in order. -/
def keys (t : Table κ α) : List κ :=
  t.entries.map Prod.fst

/-- The values, in the order of their keys. -/
def values (t : Table κ α) : List α :=
  t.entries.map Prod.snd

/-- The number of entries. -/
def size (t : Table κ α) : Nat :=
  t.entries.length

@[simp] theorem entries_empty : (empty : Table κ α).entries = [] := rfl

@[simp] theorem keys_empty : (empty : Table κ α).keys = [] := rfl

theorem nodup_keys (t : Table κ α) : t.keys.Nodup := t.nodup

@[simp] theorem length_keys (t : Table κ α) : t.keys.length = t.size := List.length_map ..

/-- Changes every value, with its key at hand. -/
def mapEntries (f : κ → α → β) (t : Table κ α) : Table κ β where
  entries := t.entries.map fun e => (e.1, f e.1 e.2)
  nodup := by simpa [List.map_map, Function.comp_def] using t.nodup

@[simp] theorem entries_mapEntries (f : κ → α → β) (t : Table κ α) :
    (t.mapEntries f).entries = t.entries.map fun e => (e.1, f e.1 e.2) := rfl

@[simp] theorem keys_mapEntries (f : κ → α → β) (t : Table κ α) :
    (t.mapEntries f).keys = t.keys := by
  simp [keys, mapEntries, List.map_map, Function.comp_def]

@[simp] theorem mapEntries_mapEntries {γ : Type} (f : κ → α → β) (g : κ → β → γ) (t : Table κ α) :
    (t.mapEntries f).mapEntries g = t.mapEntries fun k a => g k (f k a) :=
  ext (List.map_map ..)

@[simp] theorem mapEntries_self (t : Table κ α) : (t.mapEntries fun _ a => a) = t :=
  ext (List.map_id' _)

section Lookup

variable [DecidableEq κ]

/-- The value under a key. -/
def get? (t : Table κ α) (k : κ) : Option α :=
  (t.entries.find? (·.1 = k)).map Prod.snd

/-- A value lies under a key if the table has that entry: keys do not repeat, so the first entry
with the key is the only one. -/
theorem get?_eq_some_iff {t : Table κ α} {k : κ} {a : α} :
    t.get? k = some a ↔ (k, a) ∈ t.entries := by
  have found : ∀ es : List (κ × α), (es.map Prod.fst).Nodup →
      ((es.find? (·.1 = k)).map Prod.snd = some a ↔ (k, a) ∈ es) := by
    intro es hn
    induction es with
    | nil => simp
    | cons e rest ih =>
      rw [List.map_cons, List.nodup_cons] at hn
      by_cases h : e.1 = k
      -- The search stops here, and no entry further on has the same key.
      · have absent : (k, a) ∉ rest := fun hm =>
          hn.1 (List.mem_map.2 ⟨(k, a), hm, h.symm⟩)
        rw [List.find?_cons_of_pos (by simpa using h), List.mem_cons, Option.map_some,
          Option.some.injEq]
        refine ⟨fun ha => Or.inl (Prod.ext h.symm ha.symm), ?_⟩
        rintro (he | hm)
        · rw [← he]
        · exact absurd hm absent
      · rw [List.find?_cons_of_neg (by simpa using h), ih hn.2, List.mem_cons]
        refine ⟨Or.inr, ?_⟩
        rintro (he | hm)
        · exact absurd (congrArg Prod.fst he).symm h
        · exact hm
  exact found t.entries t.nodup

theorem get?_eq_some_iff_getElem? {t : Table κ α} {k : κ} {a : α} :
    t.get? k = some a ↔ ∃ i : Nat, t.entries[i]? = some (k, a) :=
  get?_eq_some_iff.trans List.mem_iff_getElem?

theorem mem_keys_of_get? {t : Table κ α} {k : κ} {a : α} (h : t.get? k = some a) : k ∈ t.keys :=
  List.mem_map.2 ⟨(k, a), get?_eq_some_iff.1 h, rfl⟩

/-- A key is what has a value. -/
theorem mem_keys_iff {t : Table κ α} {k : κ} : k ∈ t.keys ↔ ∃ a, t.get? k = some a := by
  refine ⟨fun h => ?_, fun ⟨_, h⟩ => mem_keys_of_get? h⟩
  obtain ⟨e, he, rfl⟩ := List.mem_map.1 h
  exact ⟨e.2, get?_eq_some_iff.2 he⟩

/-- A value is what is under some key. -/
theorem mem_values_iff {t : Table κ α} {a : α} : a ∈ t.values ↔ ∃ k, t.get? k = some a := by
  simp only [values, List.mem_map, Prod.exists, exists_eq_right, get?_eq_some_iff]

@[simp] theorem get?_mapEntries (f : κ → α → β) (t : Table κ α) (k : κ) :
    (t.mapEntries f).get? k = (t.get? k).map (f k) := by
  refine Option.ext fun b => ?_
  rw [get?_eq_some_iff, entries_mapEntries, List.mem_map, Option.map_eq_some_iff]
  constructor
  · rintro ⟨e, he, heq⟩
    obtain ⟨rfl, rfl⟩ := Prod.mk.inj heq
    exact ⟨e.2, get?_eq_some_iff.2 he, rfl⟩
  · rintro ⟨a, ha, rfl⟩
    exact ⟨(k, a), get?_eq_some_iff.1 ha, rfl⟩

/-- What becomes of a table depends only on the values under its keys. -/
theorem mapEntries_congr {f g : κ → α → β} {t : Table κ α}
    (h : ∀ k a, t.get? k = some a → f k a = g k a) : t.mapEntries f = t.mapEntries g := by
  refine ext (List.map_congr_left fun e he => ?_)
  rw [h e.1 e.2 (get?_eq_some_iff.2 he)]

/-- Whether there is an entry under a key. -/
def contains (t : Table κ α) (k : κ) : Bool :=
  decide (k ∈ t.keys)

@[simp] theorem contains_iff (t : Table κ α) (k : κ) : t.contains k = true ↔ k ∈ t.keys := by
  simp [contains]

/-- Changes the value under a key, if there is one. -/
def modify (k : κ) (f : α → α) (t : Table κ α) : Table κ α :=
  t.mapEntries fun k' a => if k' = k then f a else a

@[simp] theorem keys_modify (k : κ) (f : α → α) (t : Table κ α) :
    (t.modify k f).keys = t.keys := keys_mapEntries ..

/-- Changing the value under a key leaves the values under all other keys. -/
theorem get?_modify (k : κ) (f : α → α) (t : Table κ α) (k' : κ) :
    (t.modify k f).get? k' = if k' = k then (t.get? k').map f else t.get? k' := by
  rw [modify, get?_mapEntries]
  split
  · rfl
  · exact Option.map_id' ..

/-- Puts a value under a key: in place of the value that is there, else at the end. -/
def insert (k : κ) (a : α) (t : Table κ α) : Table κ α :=
  if h : k ∈ t.keys then t.modify k fun _ => a
  else
    { entries := t.entries ++ [(k, a)]
      nodup := by
        have hn := t.nodup
        rw [List.map_append]
        refine List.nodup_append.2 ⟨hn, by simp, ?_⟩
        intro x hx y hy
        simp only [List.map_cons, List.map_nil, List.mem_singleton] at hy
        subst hy
        exact fun e => h (e ▸ hx) }

/-- Inserting keeps the keys and their order; a new key comes last. -/
theorem keys_insert (k : κ) (a : α) (t : Table κ α) :
    (t.insert k a).keys = if k ∈ t.keys then t.keys else t.keys ++ [k] := by
  unfold insert
  split
  · exact keys_modify ..
  · simp [keys]

/-- Puts entries into a table one after the other. -/
def insertAll (t : Table κ α) (entries : List (κ × α)) : Table κ α :=
  entries.foldl (fun t e => t.insert e.1 e.2) t

/-- The table of a list of entries: a repeated key keeps its first place and its last value. -/
def ofList (entries : List (κ × α)) : Table κ α :=
  empty.insertAll entries

@[simp] theorem insertAll_nil (t : Table κ α) : t.insertAll [] = t := rfl

@[simp] theorem insertAll_cons (t : Table κ α) (e : κ × α) (es : List (κ × α)) :
    t.insertAll (e :: es) = (t.insert e.1 e.2).insertAll es := rfl

theorem entries_insert_of_not_mem {t : Table κ α} {k : κ} {a : α} (h : k ∉ t.keys) :
    (t.insert k a).entries = t.entries ++ [(k, a)] := by
  rw [insert, dif_neg h]

/-- Inserting changes the value under one key. -/
theorem get?_insert (t : Table κ α) (k : κ) (a : α) (k' : κ) :
    (t.insert k a).get? k' = if k' = k then some a else t.get? k' := by
  by_cases known : k ∈ t.keys
  · rw [insert, dif_pos known, get?_modify]
    split
    · next same =>
      obtain ⟨_, there⟩ := mem_keys_iff.1 known
      rw [same, there, Option.map_some]
    · rfl
  · rw [get?, entries_insert_of_not_mem known, List.find?_append, Option.map_or]
    split
    · next same =>
      -- There is no earlier entry under the key.
      have absent : t.entries.find? (·.1 = k') = none := by
        refine List.find?_eq_none.2 fun e he found => known (List.mem_map.2 ⟨e, he, ?_⟩)
        exact (of_decide_eq_true found).trans same
      rw [absent, Option.map_none, Option.none_or, List.find?_singleton,
        if_pos (decide_eq_true same.symm), Option.map_some]
    · next other =>
      rw [List.find?_singleton, if_neg (by simpa using Ne.symm other), Option.map_none,
        Option.or_none]
      rfl

/-- The last of several entries with the same key decides. -/
theorem get?_insertAll (t : Table κ α) (es : List (κ × α)) (k : κ) :
    (t.insertAll es).get? k =
      ((es.reverse.find? (·.1 = k)).map Prod.snd).or (t.get? k) := by
  induction es generalizing t with
  | nil => rw [insertAll_nil, List.reverse_nil, List.find?_nil, Option.map_none, Option.none_or]
  | cons e rest ih =>
    rw [insertAll_cons, ih, get?_insert, List.reverse_cons, List.find?_append, Option.map_or,
      Option.or_assoc, List.find?_singleton]
    congr 1
    by_cases same : e.1 = k
    · rw [if_pos same.symm, if_pos (decide_eq_true same), Option.map_some, Option.some_or]
    · rw [if_neg (Ne.symm same), if_neg (by simpa using same), Option.map_none, Option.none_or]

theorem get?_ofList (es : List (κ × α)) (k : κ) :
    (ofList es).get? k = (es.reverse.find? (·.1 = k)).map Prod.snd := by
  rw [ofList, get?_insertAll]
  exact Option.or_none

/-- Entries with new keys are put at the end, in their order. -/
theorem entries_insertAll {t : Table κ α} {es : List (κ × α)}
    (h : ((t.entries ++ es).map Prod.fst).Nodup) : (t.insertAll es).entries = t.entries ++ es := by
  induction es generalizing t with
  | nil => rw [insertAll_nil, List.append_nil]
  | cons e rest ih =>
    have new : e.1 ∉ t.keys := fun hmem => by
      rw [List.map_append, List.nodup_append] at h
      exact h.2.2 e.1 hmem e.1 (by simp) rfl
    have inserted := entries_insert_of_not_mem (a := e.2) new
    rw [insertAll_cons, ih (by rw [inserted, List.append_assoc]; exact h), inserted,
      List.append_assoc]
    rfl

/-- A table is made of its entries. -/
@[simp] theorem ofList_entries (t : Table κ α) : ofList t.entries = t :=
  ext (entries_insertAll t.nodup)

end Lookup

end Table

/-- A list without repetitions. -/
structure OrderedSet (α : Type) where
  toList : List α
  /-- No member occurs twice. -/
  nodup : toList.Nodup

namespace OrderedSet

variable {α : Type}

@[ext] theorem ext {s t : OrderedSet α} (h : s.toList = t.toList) : s = t := by
  cases s; cases t; cases h; rfl

instance [DecidableEq α] : DecidableEq (OrderedSet α) := fun s t =>
  if h : s.toList = t.toList then isTrue (ext h) else isFalse fun e => h (congrArg toList e)

/-- The set without members. -/
def empty : OrderedSet α :=
  ⟨[], List.nodup_nil⟩

instance : Inhabited (OrderedSet α) := ⟨empty⟩

/-- Adds a member at the end, unless it is there already. -/
def insert [DecidableEq α] (a : α) (s : OrderedSet α) : OrderedSet α :=
  if h : a ∈ s.toList then s
  else
    { toList := s.toList ++ [a]
      nodup := by
        refine List.nodup_append.2 ⟨s.nodup, by simp, ?_⟩
        intro x hx y hy
        simp only [List.mem_singleton] at hy
        subst hy
        exact fun e => h (e ▸ hx) }

/-- The set of the members of a list, each at its first place. -/
def ofList [DecidableEq α] (items : List α) : OrderedSet α :=
  items.foldl (fun s a => s.insert a) empty

/-- New members are added at the end, in their order. -/
theorem toList_foldl_insert [DecidableEq α] {s : OrderedSet α} {items : List α}
    (h : (s.toList ++ items).Nodup) :
    (items.foldl (fun s a => s.insert a) s).toList = s.toList ++ items := by
  induction items generalizing s with
  | nil => rw [List.foldl_nil, List.append_nil]
  | cons a rest ih =>
    have new : a ∉ s.toList := fun hmem => (List.nodup_append.1 h).2.2 a hmem a (by simp) rfl
    have inserted : (s.insert a).toList = s.toList ++ [a] := by rw [insert, dif_neg new]
    rw [List.foldl_cons, ih (by rw [inserted, List.append_assoc]; exact h), inserted,
      List.append_assoc]
    rfl

/-- A set is made of its members. -/
@[simp] theorem ofList_toList [DecidableEq α] (s : OrderedSet α) : ofList s.toList = s :=
  ext (toList_foldl_insert s.nodup)

end OrderedSet

end SdkLayout
