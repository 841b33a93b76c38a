import Mathlib.Data.List.Lex
import SdkLayout.Api.Integrity

/-!
# The first violation

Validation lists what is wrong and reports the head of the list. What is wrong is said here without
the list: a violation has a *place* in the document (`Api.Violation`), and the one that is reported
is that whose place is least (`validate_iff`).

**Places.** A place is a list of numbers. The first one is the section: types, errors, services, the
root package, subpackages. The next ones are positions in the section, from the outside to the
inside. Places are compared from the left. So a document is a tree, and to list what is wrong with
it in order is to list what is wrong with its parts in order, one after the other
(`InOrder.flatten`).
-/

namespace SdkLayout

/-! ### Violations -/

/-- What is wrong with an entry of the types table: its key first, then its references. -/
inductive TypeEntryViolation (api : Api) (key : TypeId) (t : TypeDeclaration) :
    List Nat → IntegrityError → Prop
  | key : key ≠ t.id → TypeEntryViolation api key t [0] (.mismatchedKey "types" key.text t.id.text)
  | reference {j : Nat} {type : TypeId} :
    t.references.toList[j]? = some type → type ∉ api.types.keys →
      TypeEntryViolation api key t [1, j] (.danglingType ("type '" ++ key.text ++ "'") type)

/-- What is wrong with an entry of the errors table: its key first, then its body. -/
inductive ErrorEntryViolation (api : Api) (key : ErrorId) (e : ErrorDeclaration) :
    List Nat → IntegrityError → Prop
  | key : key ≠ e.id →
    ErrorEntryViolation api key e [0] (.mismatchedKey "errors" key.text e.id.text)
  | body {type : TypeId} : e.body = some type → type ∉ api.types.keys →
      ErrorEntryViolation api key e [1] (.danglingType ("error '" ++ key.text ++ "'") type)

/-- What is wrong with an endpoint of a service: its body first, then its request and its
response. -/
inductive EndpointViolation (api : Api) (service : ServiceId) (e : Endpoint) :
    List Nat → IntegrityError → Prop
  | body {type : TypeId} : e.body = some (.reference type) → type ∉ api.types.keys →
      EndpointViolation api service e [0]
        (.danglingType ("endpoint '" ++ service.text ++ "." ++ e.name.identifier ++ "'") type)
  | request {type : TypeId} : e.request.map MethodRequest.shape = some (.body (some type)) →
      type ∉ api.types.keys →
      EndpointViolation api service e [1]
        (.danglingType ("endpoint '" ++ service.text ++ "." ++ e.name.identifier ++ "'") type)
  | response {type : TypeId} : e.stream.bind StreamingResponse.data = some type →
      type ∉ api.types.keys →
      EndpointViolation api service e [2]
        (.danglingType ("endpoint '" ++ service.text ++ "." ++ e.name.identifier ++ "'") type)

/-- What is wrong with a package: its service first, then its children. -/
inductive PackageViolation (api : Api) (referrer : String) (service : Option ServiceId)
    (children : List SubpackageId) : List Nat → IntegrityError → Prop
  | service {id : ServiceId} : service = some id → id ∉ api.services.keys →
      PackageViolation api referrer service children [0] (.danglingService referrer id)
  | child {j : Nat} {id : SubpackageId} : children[j]? = some id → id ∉ api.subpackages.keys →
      PackageViolation api referrer service children [1, j] (.danglingSubpackage referrer id)

/-- What is wrong with an API, and at which place. -/
inductive Api.Violation (api : Api) : List Nat → IntegrityError → Prop
  | type {i : Nat} {key : TypeId} {t : TypeDeclaration} {p : List Nat} {e : IntegrityError} :
    api.types.entries[i]? = some (key, t) → TypeEntryViolation api key t p e →
      Violation api (0 :: i :: p) e
  | error {i : Nat} {key : ErrorId} {d : ErrorDeclaration} {p : List Nat} {e : IntegrityError} :
    api.errors.entries[i]? = some (key, d) → ErrorEntryViolation api key d p e →
      Violation api (1 :: i :: p) e
  | endpoint {i j : Nat} {key : ServiceId} {s : Service} {d : Endpoint} {p : List Nat}
    {e : IntegrityError} :
    api.services.entries[i]? = some (key, s) → s.endpoints[j]? = some d →
      EndpointViolation api key d p e → Violation api (2 :: i :: j :: p) e
  | root {root : RootPackage} {p : List Nat} {e : IntegrityError} :
    api.rootPackage = some root →
      PackageViolation api "root package" root.service root.children p e →
      Violation api (3 :: p) e
  | subpackage {i : Nat} {key : SubpackageId} {d : Subpackage} {p : List Nat}
    {e : IntegrityError} :
    api.subpackages.entries[i]? = some (key, d) →
      PackageViolation api ("subpackage '" ++ key.text ++ "'") d.service d.children p e →
      Violation api (4 :: i :: p) e

/-! ### Errors in the order of their places -/

/-- A list has the errors of all places, in the order of the places. -/
def InOrder (V : List Nat → IntegrityError → Prop) (errors : List IntegrityError) : Prop :=
  ∃ located : List (List Nat × IntegrityError), located.map Prod.snd = errors ∧
    located.Pairwise (fun a b => a.1 < b.1) ∧ ∀ p e, (p, e) ∈ located ↔ V p e

namespace InOrder

variable {V W : List Nat → IntegrityError → Prop} {errors : List IntegrityError}

theorem congr (h : InOrder V errors) (same : ∀ p e, V p e ↔ W p e) : InOrder W errors := by
  obtain ⟨located, rfl, sorted, mem⟩ := h
  exact ⟨located, rfl, sorted, fun p e => (mem p e).trans (same p e)⟩

theorem nil (none : ∀ p e, ¬ V p e) : InOrder V [] :=
  ⟨[], rfl, .nil, fun p e => by simp [none p e]⟩

theorem singleton {place : List Nat} {error : IntegrityError}
    (one : ∀ p e, V p e ↔ p = place ∧ e = error) : InOrder V [error] :=
  ⟨[(place, error)], rfl, List.pairwise_singleton .., fun p e => by simp [one p e]⟩

/-- Everything may be put into a part of something bigger. -/
theorem under (h : InOrder V errors) (n : Nat) :
    InOrder (fun p e => ∃ q, p = n :: q ∧ V q e) errors := by
  obtain ⟨located, rfl, sorted, mem⟩ := h
  refine ⟨located.map fun a => (n :: a.1, a.2), by simp, ?_, fun p e => ?_⟩
  · rw [List.pairwise_map]
    exact sorted.imp fun before => List.cons_lt_cons_iff.2 (.inr ⟨rfl, before⟩)
  · rw [List.mem_map]
    constructor
    · rintro ⟨a, ha, same⟩
      obtain ⟨rfl, rfl⟩ := Prod.mk.inj same
      exact ⟨a.1, rfl, (mem a.1 a.2).1 ha⟩
    · rintro ⟨q, rfl, hV⟩
      exact ⟨(q, e), (mem q e).2 hV, rfl⟩

theorem append {more : List IntegrityError} (h : InOrder V errors) (h' : InOrder W more)
    (before : ∀ p e q d, V p e → W q d → p < q) :
    InOrder (fun p e => V p e ∨ W p e) (errors ++ more) := by
  obtain ⟨located, rfl, sorted, mem⟩ := h
  obtain ⟨located', rfl, sorted', mem'⟩ := h'
  refine ⟨located ++ located', by simp, List.pairwise_append.2 ⟨sorted, sorted', ?_⟩, ?_⟩
  · exact fun a ha b hb => before a.1 a.2 b.1 b.2 ((mem ..).1 ha) ((mem' ..).1 hb)
  · intro p e
    rw [List.mem_append, mem, mem']

/-- What is wrong with the parts of something, one part after the other. -/
theorem flatten_from {parts : List (List IntegrityError)}
    {V : Nat → List Nat → IntegrityError → Prop} (n : Nat)
    (each : ∀ i part, parts[i]? = some part → InOrder (V (n + i)) part) :
    InOrder (fun p e => ∃ i q, i < parts.length ∧ p = (n + i) :: q ∧ V (n + i) q e)
      parts.flatten := by
  -- By induction on the parts. So many as `n` came before, which makes `n` the number of the first.
  induction parts generalizing n with
  | nil => exact nil fun p e ⟨i, q, inside, _⟩ => absurd inside (Nat.not_lt_zero i)
  | cons part rest ih =>
    have shift : ∀ i, n + 1 + i = n + (i + 1) := fun i => by omega
    have first := (each 0 part rfl).under n
    have others := ih (n + 1) fun i part found => by
      rw [shift]
      exact each (i + 1) part found
    simp only [shift] at others
    refine (first.append others ?_).congr fun p e => ⟨?_, ?_⟩
    · rintro _ e _ d ⟨q, rfl, -⟩ ⟨i, q', -, rfl, -⟩
      exact List.cons_lt_cons_iff.2 (.inl (by omega))
    · rintro (⟨q, rfl, hV⟩ | ⟨i, q, inside, rfl, hV⟩)
      · exact ⟨0, q, by simp, rfl, hV⟩
      · exact ⟨i + 1, q, by simpa using inside, rfl, hV⟩
    · rintro ⟨i, q, inside, rfl, hV⟩
      cases i with
      | zero => exact .inl ⟨q, rfl, hV⟩
      | succ i => exact .inr ⟨i, q, by simpa using inside, rfl, hV⟩

/-- To list what is wrong with something in order is to list what is wrong with its parts in order,
one part after the other. -/
theorem flatten {parts : List (List IntegrityError)}
    (each : ∀ i part, parts[i]? = some part → InOrder (fun q => V (i :: q)) part)
    (inside : ∀ p e, V p e → ∃ i q, i < parts.length ∧ p = i :: q) : InOrder V parts.flatten := by
  refine (flatten_from 0 (V := fun i q => V (i :: q)) fun i part found => ?_).congr fun p e => ?_
  · rw [Nat.zero_add]
    exact each i part found
  · simp only [Nat.zero_add]
    constructor
    · rintro ⟨i, q, -, rfl, hV⟩
      exact hV
    · intro hV
      obtain ⟨i, q, hi, rfl⟩ := inside p e hV
      exact ⟨i, q, hi, rfl, hV⟩

/-- The parts may come from the entries of a list. -/
theorem flatMap {α : Type} {entries : List α} {f : α → List IntegrityError}
    (each : ∀ i a, entries[i]? = some a → InOrder (fun q => V (i :: q)) (f a))
    (inside : ∀ p e, V p e → ∃ i a q, entries[i]? = some a ∧ p = i :: q) :
    InOrder V (entries.flatMap f) := by
  rw [List.flatMap_def]
  refine flatten (fun i part found => ?_) fun p e hV => ?_
  · rw [List.getElem?_map, Option.map_eq_some_iff] at found
    obtain ⟨a, ha, rfl⟩ := found
    exact each i a ha
  · obtain ⟨i, a, q, ha, rfl⟩ := inside p e hV
    rw [List.length_map]
    exact ⟨i, q, (List.getElem?_eq_some_iff.1 ha).1, rfl⟩

/-- Two parts, one after the other. -/
theorem pair {more : List IntegrityError} (first : InOrder (fun q => V (0 :: q)) errors)
    (second : InOrder (fun q => V (1 :: q)) more)
    (inside : ∀ p e, V p e → ∃ q, p = 0 :: q ∨ p = 1 :: q) : InOrder V (errors ++ more) := by
  have parts : errors ++ more = [errors, more].flatten := by simp
  rw [parts]
  refine flatten (fun i part found => ?_) fun p e hV => ?_
  · match i with
    | 0 => exact Option.some.inj found ▸ first
    | 1 => exact Option.some.inj found ▸ second
    | _ + 2 => exact absurd found (by simp)
  · obtain ⟨q, rfl | rfl⟩ := inside p e hV
    · exact ⟨0, q, by simp, rfl⟩
    · exact ⟨1, q, by simp, rfl⟩

/-- No error is listed if and only if there is none. -/
theorem eq_nil_iff (h : InOrder V errors) : errors = [] ↔ ∀ p e, ¬ V p e := by
  obtain ⟨located, rfl, -, mem⟩ := h
  rw [List.map_eq_nil_iff, List.eq_nil_iff_forall_not_mem]
  constructor
  · exact fun none p e hV => none (p, e) ((mem p e).2 hV)
  · exact fun none a ha => none a.1 a.2 ((mem a.1 a.2).1 ha)

/-- The first error that is listed is that of the least place. -/
theorem head?_eq_some_iff (h : InOrder V errors) {e : IntegrityError} :
    errors.head? = some e ↔ ∃ p, V p e ∧ ∀ p' e', V p' e' → p ≤ p' := by
  obtain ⟨located, rfl, sorted, mem⟩ := h
  cases located with
  | nil =>
    -- Without an error in the list there is no violation either.
    refine ⟨nofun, ?_⟩
    rintro ⟨p, hV, -⟩
    exact absurd ((mem p e).2 hV) (by simp)
  | cons first rest =>
    -- The first place is before all others, so that a least place can be no other.
    obtain ⟨before, -⟩ := List.pairwise_cons.1 sorted
    constructor
    · intro head
      obtain rfl := Option.some.inj head
      refine ⟨first.1, (mem ..).1 (List.mem_cons_self ..), fun p' e' hV => ?_⟩
      rcases List.mem_cons.1 ((mem p' e').2 hV) with rfl | later
      · exact le_refl p'
      · exact le_of_lt (before _ later)
    · rintro ⟨p, hV, least⟩
      have ahead : p ≤ first.1 := least _ _ ((mem ..).1 (List.mem_cons_self ..))
      rcases List.mem_cons.1 ((mem p e).2 hV) with rfl | later
      · rfl
      · exact absurd (before _ later) (not_lt_of_ge ahead)

end InOrder

/-! ### Parts of the document -/

section Parts

variable {api : Api}

/-- One error, if there is reason for it. -/
theorem inOrder_ite {c : Prop} [Decidable c] {error : IntegrityError} :
    InOrder (fun p e => c ∧ p = [] ∧ e = error) (if c then [error] else []) := by
  by_cases h : c
  · rw [if_pos h]
    exact .singleton fun p e => and_iff_right h
  · rw [if_neg h]
    exact .nil fun p e wrong => h wrong.1

theorem inOrder_keyViolations {kind : IdKind} {table : String} {key declared : Id kind} :
    InOrder (fun p e => key ≠ declared ∧ p = [] ∧ e = .mismatchedKey table key.text declared.text)
      (Api.keyViolations table key declared) := by
  rw [Api.keyViolations, ← ite_not]
  exact inOrder_ite

section Dangling

variable {kind : IdKind} {α : Type} {table : Table (Id kind) α} {violation : Id kind → IntegrityError}

theorem dangling_eq_flatMap (ids : List (Id kind)) :
    (ids.filter fun id => !table.contains id).map violation =
      ids.flatMap fun id => if id ∉ table.keys then [violation id] else [] := by
  induction ids with
  | nil => rfl
  | cons id rest ih =>
    rw [List.flatMap_cons, ← ih]
    by_cases known : id ∈ table.keys <;> simp [Table.contains, known]

/-- Identifiers that are not in their table are reported one by one. -/
theorem inOrder_dangling {ids : List (Id kind)} :
    InOrder (fun p e => ∃ j id, ids[j]? = some id ∧ id ∉ table.keys ∧ p = [j] ∧ e = violation id)
      ((ids.filter fun id => !table.contains id).map violation) := by
  rw [dangling_eq_flatMap]
  refine .flatMap (fun j id there => inOrder_ite.congr fun p e => ⟨?_, ?_⟩) ?_
  · rintro ⟨missing, rfl, rfl⟩
    exact ⟨j, id, there, missing, rfl, rfl⟩
  · rintro ⟨j', id', there', missing, place, rfl⟩
    obtain ⟨rfl, rfl⟩ := List.cons.inj place
    obtain rfl := Option.some.inj (there.symm.trans there')
    exact ⟨missing, rfl, rfl⟩
  · rintro _ _ ⟨j, id, there, -, rfl, -⟩
    exact ⟨j, id, [], there, rfl⟩

/-- So is the one that may be there. -/
theorem inOrder_dangling_option {id? : Option (Id kind)} :
    InOrder (fun p e => ∃ id, id? = some id ∧ id ∉ table.keys ∧ p = [] ∧ e = violation id)
      ((id?.toList.filter fun id => !table.contains id).map violation) := by
  rw [dangling_eq_flatMap]
  cases id? with
  | none => exact .nil fun p e => by simp
  | some id =>
    rw [Option.toList_some, List.flatMap_singleton]
    exact inOrder_ite.congr fun p e => by simp

end Dangling

/-! ### Sections of the document -/

/-- The type that the body of an endpoint refers to. -/
def Endpoint.bodyType? (d : Endpoint) : Option TypeId :=
  match d.body with
  | some (.reference type) => some type
  | _ => none

/-- The type that a method takes as it is. -/
def Endpoint.requestType? (d : Endpoint) : Option TypeId :=
  match d.request with
  | some ⟨.body (some type), _⟩ => some type
  | _ => none

theorem Endpoint.bodyType?_eq_some_iff {d : Endpoint} {type : TypeId} :
    d.bodyType? = some type ↔ d.body = some (.reference type) := by
  unfold bodyType?
  split
  · next same => simp [same]
  · next other => exact ⟨nofun, fun same => absurd same (other type)⟩

theorem Endpoint.requestType?_eq_some_iff {d : Endpoint} {type : TypeId} :
    d.requestType? = some type ↔
      d.request.map MethodRequest.shape = some (.body (some type)) := by
  unfold requestType?
  split
  · next same => simp [same]
  · next other =>
    refine ⟨nofun, fun same => ?_⟩
    obtain ⟨⟨shape, parameter⟩, there, rfl⟩ := Option.map_eq_some_iff.1 same
    exact absurd there (other type parameter)

theorem inOrder_typeEntryViolations (key : TypeId) (t : TypeDeclaration) :
    InOrder (TypeEntryViolation api key t) (api.typeEntryViolations key t) := by
  -- The key is the first part, the references are the second one.
  refine .pair (inOrder_keyViolations.congr fun p e => ⟨?_, ?_⟩)
    (inOrder_dangling.congr fun p e => ⟨?_, ?_⟩) ?_
  · rintro ⟨differ, rfl, rfl⟩
    exact .key differ
  · rintro ⟨differ⟩
    exact ⟨differ, rfl, rfl⟩
  · rintro ⟨j, type, there, missing, rfl, rfl⟩
    exact .reference there missing
  · rintro (_ | ⟨there, missing⟩)
    exact ⟨_, _, there, missing, rfl, rfl⟩
  · rintro _ _ (_ | _)
    · exact ⟨_, .inl rfl⟩
    · exact ⟨_, .inr rfl⟩

theorem inOrder_errorEntryViolations (key : ErrorId) (d : ErrorDeclaration) :
    InOrder (ErrorEntryViolation api key d) (api.errorEntryViolations key d) := by
  -- The key is the first part, the body is the second one.
  refine .pair (inOrder_keyViolations.congr fun p e => ⟨?_, ?_⟩)
    (inOrder_dangling_option.congr fun p e => ⟨?_, ?_⟩) ?_
  · rintro ⟨differ, rfl, rfl⟩
    exact .key differ
  · rintro ⟨differ⟩
    exact ⟨differ, rfl, rfl⟩
  · rintro ⟨type, there, missing, rfl, rfl⟩
    exact .body there missing
  · rintro (_ | ⟨there, missing⟩)
    exact ⟨_, there, missing, rfl, rfl⟩
  · rintro _ _ (_ | _)
    · exact ⟨_, .inl rfl⟩
    · exact ⟨_, .inr rfl⟩

theorem inOrder_packageViolations (referrer : String) (service : Option ServiceId)
    (children : List SubpackageId) :
    InOrder (PackageViolation api referrer service children)
      (api.packageViolations referrer service children) := by
  -- The service is the first part, the children are the second one.
  refine .pair (inOrder_dangling_option.congr fun p e => ⟨?_, ?_⟩)
    (inOrder_dangling.congr fun p e => ⟨?_, ?_⟩) ?_
  · rintro ⟨id, owned, missing, rfl, rfl⟩
    exact .service owned missing
  · rintro ⟨owned, missing⟩
    exact ⟨_, owned, missing, rfl, rfl⟩
  · rintro ⟨j, id, there, missing, rfl, rfl⟩
    exact .child there missing
  · rintro (_ | ⟨there, missing⟩)
    exact ⟨_, _, there, missing, rfl, rfl⟩
  · rintro _ _ (_ | _)
    · exact ⟨_, .inl rfl⟩
    · exact ⟨_, .inr rfl⟩

/-- The places in an endpoint that can refer to a type, each with the type that it refers to. -/
def Endpoint.typePlaces (d : Endpoint) : List (Option TypeId) :=
  [d.bodyType?, d.requestType?, d.stream.bind StreamingResponse.data]

theorem typeViolations_endpointTypes (referrer : String) (d : Endpoint) :
    api.typeViolations referrer (Api.endpointTypes d) =
      d.typePlaces.flatMap fun type? => api.typeViolations referrer type?.toList := by
  have types : Api.endpointTypes d = d.typePlaces.flatMap Option.toList := by
    unfold Api.endpointTypes Endpoint.typePlaces Endpoint.bodyType? Endpoint.requestType?
    simp only [List.flatMap_cons, List.flatMap_nil, List.append_nil, List.append_assoc]
    congr 1
    · rcases d.body with _ | _ | _ | _ <;> rfl
    congr 1
    · rcases d.request with _ | ⟨(_ | _) | _, _⟩ <;> rfl
    · rcases d.stream with _ | ⟨_ | _, _⟩ <;> rfl
  rw [types, Api.typeViolations, List.filter_flatMap, List.map_flatMap]
  rfl

/-- What is wrong with an endpoint is a type that is missing, and its place is where the endpoint
refers to it. -/
theorem endpointViolation_iff {service : ServiceId} {d : Endpoint} {p : List Nat}
    {e : IntegrityError} :
    EndpointViolation api service d p e ↔
      ∃ i type, d.typePlaces[i]? = some (some type) ∧ type ∉ api.types.keys ∧ p = [i] ∧
        e = .danglingType ("endpoint '" ++ service.text ++ "." ++ d.name.identifier ++ "'") type := by
  constructor
  · rintro (⟨there, missing⟩ | ⟨there, missing⟩ | ⟨there, missing⟩)
    · exact ⟨0, _, congrArg some (d.bodyType?_eq_some_iff.2 there), missing, rfl, rfl⟩
    · exact ⟨1, _, congrArg some (d.requestType?_eq_some_iff.2 there), missing, rfl, rfl⟩
    · exact ⟨2, _, congrArg some there, missing, rfl, rfl⟩
  · rintro ⟨i, type, there, missing, rfl, rfl⟩
    match i with
    | 0 => exact .body (d.bodyType?_eq_some_iff.1 (Option.some.inj there)) missing
    | 1 => exact .request (d.requestType?_eq_some_iff.1 (Option.some.inj there)) missing
    | 2 => exact .response (Option.some.inj there) missing
    | _ + 3 => exact absurd there (by simp [Endpoint.typePlaces])

theorem inOrder_endpointViolations (service : ServiceId) (d : Endpoint) :
    InOrder (EndpointViolation api service d)
      (api.typeViolations ("endpoint '" ++ service.text ++ "." ++ d.name.identifier ++ "'")
        (Api.endpointTypes d)) := by
  rw [typeViolations_endpointTypes]
  -- There is at most one type at a place, so that each place is a part with one error or none.
  refine .flatMap (fun i type? there => inOrder_dangling_option.congr fun p e => ?_) ?_
  · rw [endpointViolation_iff]
    constructor
    · rintro ⟨type, rfl, missing, rfl, rfl⟩
      exact ⟨i, type, there, missing, rfl, rfl⟩
    · rintro ⟨j, type, there', missing, same, rfl⟩
      obtain ⟨rfl, rfl⟩ := List.cons.inj same
      exact ⟨type, Option.some.inj (there.symm.trans there'), missing, rfl, rfl⟩
  · intro p e wrong
    obtain ⟨i, type, there, -, rfl, -⟩ := endpointViolation_iff.1 wrong
    exact ⟨i, some type, [], there, rfl⟩

theorem inOrder_types : InOrder (fun p => api.Violation (0 :: p))
    (api.types.entries.flatMap fun e => api.typeEntryViolations e.1 e.2) := by
  refine .flatMap (fun i entry there => ?_) ?_
  · refine (inOrder_typeEntryViolations entry.1 entry.2).congr fun p e => ⟨.type there, ?_⟩
    rintro ⟨there', h⟩
    obtain rfl := Option.some.inj (there.symm.trans there')
    exact h
  · rintro _ _ ⟨there, -⟩
    exact ⟨_, _, _, there, rfl⟩

theorem inOrder_errors : InOrder (fun p => api.Violation (1 :: p))
    (api.errors.entries.flatMap fun e => api.errorEntryViolations e.1 e.2) := by
  refine .flatMap (fun i entry there => ?_) ?_
  · refine (inOrder_errorEntryViolations entry.1 entry.2).congr fun p e => ⟨.error there, ?_⟩
    rintro (_ | ⟨there', h⟩)
    obtain rfl := Option.some.inj (there.symm.trans there')
    exact h
  · rintro _ _ (_ | ⟨there, -⟩)
    exact ⟨_, _, _, there, rfl⟩

theorem inOrder_services : InOrder (fun p => api.Violation (2 :: p))
    (api.services.entries.flatMap fun e => api.serviceEntryViolations e.1 e.2) := by
  refine .flatMap (fun i entry there => .flatMap (fun j d found => ?_) ?_) ?_
  · refine (inOrder_endpointViolations entry.1 d).congr fun p e => ⟨.endpoint there found, ?_⟩
    rintro (_ | _ | ⟨there', found', h⟩)
    obtain rfl := Option.some.inj (there.symm.trans there')
    obtain rfl := Option.some.inj (found.symm.trans found')
    exact h
  · rintro _ _ (_ | _ | ⟨there', found, -⟩)
    obtain rfl := Option.some.inj (there.symm.trans there')
    exact ⟨_, _, _, found, rfl⟩
  · rintro _ _ (_ | _ | ⟨there, -, -⟩)
    exact ⟨_, _, _, there, rfl⟩

theorem inOrder_root : InOrder (fun p => api.Violation (3 :: p)) api.rootViolations := by
  unfold Api.rootViolations
  split
  · next absent =>
    refine .nil fun p e => ?_
    rintro (_ | _ | _ | ⟨there, -⟩)
    exact absurd (absent.symm.trans there) (by simp)
  · next root there =>
    refine (inOrder_packageViolations ..).congr fun p e => ⟨.root there, ?_⟩
    rintro (_ | _ | _ | ⟨there', h⟩)
    obtain rfl := Option.some.inj (there.symm.trans there')
    exact h

theorem inOrder_subpackages : InOrder (fun p => api.Violation (4 :: p))
    (api.subpackages.entries.flatMap fun e => api.subpackageEntryViolations e.1 e.2) := by
  refine .flatMap (fun i entry there => ?_) ?_
  · refine (inOrder_packageViolations ..).congr fun p e => ⟨.subpackage there, ?_⟩
    rintro (_ | _ | _ | _ | ⟨there', h⟩)
    obtain rfl := Option.some.inj (there.symm.trans there')
    exact h
  · rintro _ _ (_ | _ | _ | _ | ⟨there, -⟩)
    exact ⟨_, _, _, there, rfl⟩

/-- All violations are listed in the order of their places. -/
theorem inOrder_violations (api : Api) : InOrder api.Violation api.violations := by
  have sections : api.violations =
      [api.types.entries.flatMap fun e => api.typeEntryViolations e.1 e.2,
        api.errors.entries.flatMap fun e => api.errorEntryViolations e.1 e.2,
        api.services.entries.flatMap fun e => api.serviceEntryViolations e.1 e.2,
        api.rootViolations,
        api.subpackages.entries.flatMap fun e => api.subpackageEntryViolations e.1 e.2].flatten := by
    simp [Api.violations]
  rw [sections]
  -- The number of a section is the first number of all places in it.
  refine .flatten (fun i part found => ?_) ?_
  · match i with
    | 0 => exact Option.some.inj found ▸ inOrder_types
    | 1 => exact Option.some.inj found ▸ inOrder_errors
    | 2 => exact Option.some.inj found ▸ inOrder_services
    | 3 => exact Option.some.inj found ▸ inOrder_root
    | 4 => exact Option.some.inj found ▸ inOrder_subpackages
    | _ + 5 => exact absurd found (by simp)
  · rintro _ _ (_ | _ | _ | _ | _)
    · exact ⟨0, _, by simp, rfl⟩
    · exact ⟨1, _, by simp, rfl⟩
    · exact ⟨2, _, by simp, rfl⟩
    · exact ⟨3, _, by simp, rfl⟩
    · exact ⟨4, _, by simp, rfl⟩

end Parts

/-! ### Validation -/

/-- An API is referentially intact: entries are under their own keys, and whatever is referred to is
in its table. -/
structure Api.Valid (api : Api) : Prop where
  typeKeys : ∀ key t, api.types.get? key = some t → key = t.id
  references : ∀ key t, api.types.get? key = some t →
    ∀ type ∈ t.references.toList, type ∈ api.types.keys
  errorKeys : ∀ key d, api.errors.get? key = some d → key = d.id
  errorBodies : ∀ key d, api.errors.get? key = some d →
    ∀ type, d.body = some type → type ∈ api.types.keys
  bodies : ∀ key s, api.services.get? key = some s → ∀ d ∈ s.endpoints,
    ∀ type, d.body = some (.reference type) → type ∈ api.types.keys
  requests : ∀ key s, api.services.get? key = some s → ∀ d ∈ s.endpoints,
    ∀ type, d.request.map MethodRequest.shape = some (.body (some type)) → type ∈ api.types.keys
  responses : ∀ key s, api.services.get? key = some s → ∀ d ∈ s.endpoints,
    ∀ type, d.stream.bind StreamingResponse.data = some type → type ∈ api.types.keys
  rootService : ∀ root, api.rootPackage = some root →
    ∀ id, root.service = some id → id ∈ api.services.keys
  rootChildren : ∀ root, api.rootPackage = some root →
    ∀ id ∈ root.children, id ∈ api.subpackages.keys
  services : ∀ key d, api.subpackages.get? key = some d →
    ∀ id, d.service = some id → id ∈ api.services.keys
  children : ∀ key d, api.subpackages.get? key = some d →
    ∀ id ∈ d.children, id ∈ api.subpackages.keys

section Entries

variable {api : Api}

theorem not_typeEntryViolation_iff {key : TypeId} {t : TypeDeclaration} :
    (∀ p e, ¬ TypeEntryViolation api key t p e) ↔
      key = t.id ∧ ∀ type ∈ t.references.toList, type ∈ api.types.keys := by
  constructor
  · intro none
    refine ⟨by_contra fun differ => none _ _ (.key differ), fun type found => ?_⟩
    obtain ⟨j, found⟩ := List.mem_iff_getElem?.1 found
    exact by_contra fun missing => none _ _ (.reference found missing)
  · rintro ⟨same, known⟩ _ _ (differ | ⟨found, missing⟩)
    · exact differ same
    · exact missing (known _ (List.mem_of_getElem? found))

theorem not_errorEntryViolation_iff {key : ErrorId} {d : ErrorDeclaration} :
    (∀ p e, ¬ ErrorEntryViolation api key d p e) ↔
      key = d.id ∧ ∀ type, d.body = some type → type ∈ api.types.keys := by
  constructor
  · intro none
    exact ⟨by_contra fun differ => none _ _ (.key differ),
      fun type body => by_contra fun missing => none _ _ (.body body missing)⟩
  · rintro ⟨same, known⟩ _ _ (differ | ⟨body, missing⟩)
    · exact differ same
    · exact missing (known _ body)

theorem not_endpointViolation_iff {service : ServiceId} {d : Endpoint} :
    (∀ p e, ¬ EndpointViolation api service d p e) ↔
      (∀ type, d.body = some (.reference type) → type ∈ api.types.keys) ∧
      (∀ type, d.request.map MethodRequest.shape = some (.body (some type)) →
        type ∈ api.types.keys) ∧
      ∀ type, d.stream.bind StreamingResponse.data = some type → type ∈ api.types.keys := by
  constructor
  · intro none
    exact ⟨fun type body => by_contra fun missing => none _ _ (.body body missing),
      fun type request => by_contra fun missing => none _ _ (.request request missing),
      fun type response => by_contra fun missing => none _ _ (.response response missing)⟩
  · rintro ⟨bodies, requests, responses⟩ _ _ (⟨body, missing⟩ | ⟨request, missing⟩ |
      ⟨response, missing⟩)
    · exact missing (bodies _ body)
    · exact missing (requests _ request)
    · exact missing (responses _ response)

theorem not_packageViolation_iff {referrer : String} {service : Option ServiceId}
    {children : List SubpackageId} :
    (∀ p e, ¬ PackageViolation api referrer service children p e) ↔
      (∀ id, service = some id → id ∈ api.services.keys) ∧
      ∀ id ∈ children, id ∈ api.subpackages.keys := by
  constructor
  · intro none
    refine ⟨fun id owned => by_contra fun missing => none _ _ (.service owned missing),
      fun id found => ?_⟩
    obtain ⟨j, found⟩ := List.mem_iff_getElem?.1 found
    exact by_contra fun missing => none _ _ (.child found missing)
  · rintro ⟨services, known⟩ _ _ (⟨owned, missing⟩ | ⟨found, missing⟩)
    · exact missing (services _ owned)
    · exact missing (known _ (List.mem_of_getElem? found))

end Entries

namespace Api

variable {api : Api}

/-- Nothing is wrong with an API if and only if nothing is wrong with any of its parts. -/
theorem not_violation_iff :
    (∀ p e, ¬ api.Violation p e) ↔
      (∀ key t, api.types.get? key = some t → ∀ p e, ¬ TypeEntryViolation api key t p e) ∧
      (∀ key d, api.errors.get? key = some d → ∀ p e, ¬ ErrorEntryViolation api key d p e) ∧
      (∀ key s, api.services.get? key = some s → ∀ d ∈ s.endpoints,
        ∀ p e, ¬ EndpointViolation api key d p e) ∧
      (∀ root, api.rootPackage = some root →
        ∀ p e, ¬ PackageViolation api "root package" root.service root.children p e) ∧
      (∀ key d, api.subpackages.get? key = some d →
        ∀ p e, ¬ PackageViolation api ("subpackage '" ++ key.text ++ "'") d.service d.children
          p e) := by
  constructor
  -- What is in a table is at some position there, and so is what is wrong with it.
  · intro none
    refine ⟨fun key t there p e wrong => ?_, fun key d there p e wrong => ?_,
      fun key s there d found p e wrong => ?_, fun root there p e wrong => ?_,
      fun key d there p e wrong => ?_⟩
    · obtain ⟨i, there⟩ := Table.get?_eq_some_iff_getElem?.1 there
      exact none _ _ (.type there wrong)
    · obtain ⟨i, there⟩ := Table.get?_eq_some_iff_getElem?.1 there
      exact none _ _ (.error there wrong)
    · obtain ⟨i, there⟩ := Table.get?_eq_some_iff_getElem?.1 there
      obtain ⟨j, found⟩ := List.mem_iff_getElem?.1 found
      exact none _ _ (.endpoint there found wrong)
    · exact none _ _ (.root there wrong)
    · obtain ⟨i, there⟩ := Table.get?_eq_some_iff_getElem?.1 there
      exact none _ _ (.subpackage there wrong)
  · rintro ⟨types, errors, endpoints, root, subpackages⟩ p e wrong
    cases wrong with
    | type there wrong => exact types _ _ (Table.get?_eq_some_iff_getElem?.2 ⟨_, there⟩) _ _ wrong
    | error there wrong => exact errors _ _ (Table.get?_eq_some_iff_getElem?.2 ⟨_, there⟩) _ _ wrong
    | endpoint there found wrong =>
      exact endpoints _ _ (Table.get?_eq_some_iff_getElem?.2 ⟨_, there⟩) _
        (List.mem_of_getElem? found) _ _ wrong
    | root there wrong => exact root _ there _ _ wrong
    | subpackage there wrong =>
      exact subpackages _ _ (Table.get?_eq_some_iff_getElem?.2 ⟨_, there⟩) _ _ wrong

theorem valid_iff : api.Valid ↔ ∀ p e, ¬ api.Violation p e := by
  -- Part by part, validity says that nothing is wrong with an entry.
  simp only [not_violation_iff, not_typeEntryViolation_iff, not_errorEntryViolation_iff,
    not_endpointViolation_iff, not_packageViolation_iff]
  constructor
  · intro h
    exact ⟨fun key t there => ⟨h.typeKeys key t there, h.references key t there⟩,
      fun key d there => ⟨h.errorKeys key d there, h.errorBodies key d there⟩,
      fun key s there d found => ⟨h.bodies key s there d found, h.requests key s there d found,
        h.responses key s there d found⟩,
      fun root there => ⟨h.rootService root there, h.rootChildren root there⟩,
      fun key d there => ⟨h.services key d there, h.children key d there⟩⟩
  · rintro ⟨types, errors, endpoints, root, subpackages⟩
    exact
      { typeKeys := fun key t there => (types key t there).1
        references := fun key t there => (types key t there).2
        errorKeys := fun key d there => (errors key d there).1
        errorBodies := fun key d there => (errors key d there).2
        bodies := fun key s there d found => (endpoints key s there d found).1
        requests := fun key s there d found => (endpoints key s there d found).2.1
        responses := fun key s there d found => (endpoints key s there d found).2.2
        rootService := fun r there => (root r there).1
        rootChildren := fun r there => (root r there).2
        services := fun key d there => (subpackages key d there).1
        children := fun key d there => (subpackages key d there).2 }

theorem validate_eq_ok_iff : api.validate = .ok () ↔ api.Valid := by
  have listed : api.validate = .ok () ↔ api.violations = [] := by
    unfold validate
    cases api.violations <;> simp
  rw [listed, (inOrder_violations api).eq_nil_iff, valid_iff]

theorem validate_eq_error_iff {e : IntegrityError} :
    api.validate = .error e ↔ api.violations.head? = some e := by
  unfold validate
  cases api.violations <;> simp

/-- **Validation accepts the APIs that are intact, and reports the first violation of any other.** -/
theorem validate_iff (api : Api) :
    (api.validate = .ok () ↔ api.Valid) ∧
    ∀ e, api.validate = .error e ↔
      ∃ p, api.Violation p e ∧ ∀ p' e', api.Violation p' e' → p ≤ p' :=
  ⟨validate_eq_ok_iff, fun _ =>
    validate_eq_error_iff.trans (inOrder_violations api).head?_eq_some_iff⟩

end Api

end SdkLayout
