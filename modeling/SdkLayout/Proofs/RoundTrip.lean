import SdkLayout.Proofs.Decoding

/-!
# API definitions survive being written and read

Every part of an API definition is read back from its JSON form. There is one lemma
(`decoder_toJson`) for each type of the definition, from names up to the whole, and each follows
from those of the fields: none of them looks at the JSON form of a field again. Which optional
fields are there makes no difference to the proofs, as members that are left out are absent when
their key is looked up.

Two things have to be known about a form besides how it is read. What may be absent must not be
written as null when it is there (`toJson_ne_null`). And the parts of a union must fit into the
stored value of the union (`fits_toJson`), for which the scope needs room: ten levels suffice for a
whole definition, of which a document has 127.

The path invariant needs no assumption. It is part of the type of paths, and it is what lets the
decoder accept both spellings of a path that was written.
-/

namespace SdkLayout

open Json

variable {scope : Scope}

/-! ### Names and paths -/

@[simp] theorem CasedName.decoder_toJson (n : CasedName) :
    (CasedName.decoder scope n.toJson).value? = some n := by
  rw [CasedName.decoder, CasedName.toJson, structured_object (by simp)]
  simp

@[simp] theorem CasedName.fits_toJson (levels : Nat) (n : CasedName) :
    n.toJson.Fits (levels + 1) := by
  simp [CasedName.toJson]

namespace Name

@[simp] theorem decoder_toJson (n : Name) : (Name.decoder scope n.toJson).value? = some n := by
  rw [decoder, toJson, structured_object (by simp)]
  simp

@[simp] theorem fits_toJson (levels : Nat) (n : Name) : n.toJson.Fits (levels + 2) := by
  simp [toJson]

@[simp] theorem toJson_ne_null (n : Name) : n.toJson ≠ .null := nofun

@[simp] theorem decoder_listToJson (names : List Name) :
    (Json.Decoder.list Name.decoder scope (listToJson names)).value? = some names :=
  value?_list decoder_toJson names

@[simp] theorem fits_listToJson (levels : Nat) (names : List Name) :
    (listToJson names).Fits (levels + 3) := by
  simp [listToJson]

end Name

/-- A path is read back: its spellings agree, so that they are taken for one path again. -/
@[simp] theorem DeclarationPath.decoder_toJson (p : DeclarationPath) :
    (DeclarationPath.decoder scope p.toJson).value? = some p := by
  have read : Spelling.decoder scope p.toJson = .ok ⟨p.allParts, p.packagePath, p.file⟩ := by
    rw [← Decoded.value?_eq_some, Spelling.decoder, toJson, structured_object (by simp)]
    simp
  have path : Spelling.path? ⟨p.allParts, p.packagePath, p.file⟩ = some p := dif_pos p.agree
  rw [DeclarationPath.decoder, read]
  simp only [path, Decoded.value?_ok]

/-! ### Identifiers -/

namespace Id

variable {kind : IdKind}

@[simp] theorem decoder_toJson (id : Id kind) : (Id.decoder scope id.toJson).value? = some id := by
  rw [decoder, toJson, Json.Decoder.map, Decoded.value?_map, Json.Decoder.value?_string,
    Option.map_some]

@[simp] theorem fits_toJson (levels : Nat) (id : Id kind) : id.toJson.Fits levels :=
  fits_string ..

@[simp] theorem toJson_ne_null (id : Id kind) : id.toJson ≠ .null := nofun

@[simp] theorem decoder_listToJson (ids : List (Id kind)) :
    (Json.Decoder.list Id.decoder scope (listToJson ids)).value? = some ids :=
  value?_list decoder_toJson ids

@[simp] theorem fits_listToJson (levels : Nat) (ids : List (Id kind)) :
    (listToJson ids).Fits (levels + 1) := by
  simp [listToJson]

end Id

/-! ### Types and errors -/

@[simp] theorem Property.decoder_toJson (p : Property) :
    (Property.decoder scope p.toJson).value? = some p := by
  rw [Property.decoder, Property.toJson, structured_object (by simp [docsMember])]
  simp [docsMember]

@[simp] theorem Property.fits_toJson (levels : Nat) (p : Property) :
    p.toJson.Fits (levels + 3) := by
  simp [Property.toJson, docsMember, or_imp, forall_and]

@[simp] theorem Variant.decoder_toJson (v : Variant) :
    (Variant.decoder scope v.toJson).value? = some v := by
  rw [Variant.decoder, Variant.toJson, structured_object (by simp)]
  simp

@[simp] theorem Variant.fits_toJson (levels : Nat) (v : Variant) :
    v.toJson.Fits (levels + 3) := by
  simp [Variant.toJson, or_imp, forall_and]

namespace TypeShape

theorem fits_toJson (levels : Nat) (s : TypeShape) : s.toJson.Fits (levels + 5) := by
  cases s <;> simp [toJson, or_imp, forall_and]

theorem decoder_toJson (room : scope.HasRoom 5) (s : TypeShape) :
    (TypeShape.decoder scope s.toJson).value? = some s := by
  have fits := fun more => s.fits_toJson more
  -- The tag of the written shape picks the variant, and then its fields are read.
  cases s with
  | object bases properties =>
    exact (value?_union room fits rfl (by simp) rfl).trans (by simp)
  | union discriminant variants =>
    exact (value?_union room fits rfl (by simp) rfl).trans (by simp)
  | «alias» target =>
    exact (value?_union room fits rfl (by simp) rfl).trans (by simp)
  | «enum» values =>
    exact (value?_union room fits rfl (by simp) rfl).trans (by simp)

end TypeShape

@[simp] theorem Declared.decoder_toJson {kind : IdKind} {key : String}
    (path : key ≠ "declarationPath") (name : key ≠ "name") (d : Declared kind) :
    (Declared.decoder key scope (d.toJson key)).value? = some d := by
  rw [Declared.decoder, Declared.toJson, structured_object (by simp [path, name])]
  simp [Ne.symm path, Ne.symm name]

theorem TypeDeclaration.decoder_toJson (room : scope.HasRoom 6) (t : TypeDeclaration) :
    (TypeDeclaration.decoder scope t.toJson).value? = some t := by
  rw [TypeDeclaration.decoder, TypeDeclaration.toJson, structured_object (by simp [docsMember])]
  simp [docsMember, Id.listToJson, TypeShape.decoder_toJson room.inner, ofDeclared]

@[simp] theorem ErrorDeclaration.decoder_toJson (e : ErrorDeclaration) :
    (ErrorDeclaration.decoder scope e.toJson).value? = some e := by
  rw [ErrorDeclaration.decoder, ErrorDeclaration.toJson, structured_object (by simp)]
  simp [ofDeclared]

/-! ### Services -/

theorem RequestShape.fits_toJson (levels : Nat) (s : RequestShape) :
    s.toJson.Fits (levels + 3) := by
  cases s <;> simp [toJson, or_imp, forall_and]

theorem RequestShape.decoder_toJson (room : scope.HasRoom 3) (s : RequestShape) :
    (RequestShape.decoder scope s.toJson).value? = some s := by
  have fits := fun more => s.fits_toJson more
  cases s with
  | body type =>
    exact (value?_union room fits rfl (by simp) rfl).trans (by simp)
  | wrapper name bodyKey =>
    exact (value?_union room fits rfl (by simp) rfl).trans (by simp)

theorem MethodRequest.decoder_toJson (room : scope.HasRoom 4) (r : MethodRequest) :
    (MethodRequest.decoder scope r.toJson).value? = some r := by
  rw [MethodRequest.decoder, MethodRequest.toJson, structured_object (by simp)]
  simp [RequestShape.decoder_toJson room.inner]

@[simp] theorem MethodRequest.toJson_ne_null (r : MethodRequest) : r.toJson ≠ .null := nofun

@[simp] theorem UploadPart.fits_toJson (levels : Nat) (p : UploadPart) :
    p.toJson.Fits (levels + 3) := by
  cases p <;> simp [toJson]

theorem UploadPart.decoder_toJson (room : scope.HasRoom 3) (p : UploadPart) :
    (UploadPart.decoder scope p.toJson).value? = some p := by
  have fits := fun more => p.fits_toJson more
  cases p with
  | file key =>
    exact (value?_union room fits rfl (by simp) rfl).trans (by simp)
  | field name =>
    exact (value?_union room fits rfl (by simp) rfl).trans (by simp)

namespace RequestBody

theorem fits_toJson (levels : Nat) (b : RequestBody) : b.toJson.Fits (levels + 5) := by
  cases b <;> simp [toJson]

theorem decoder_toJson (room : scope.HasRoom 5) (b : RequestBody) :
    (RequestBody.decoder scope b.toJson).value? = some b := by
  have fits := fun more => b.fits_toJson more
  cases b with
  | inlined name properties =>
    exact (value?_union room fits rfl (by simp) rfl).trans (by simp)
  | reference type =>
    exact (value?_union room fits rfl (by simp) rfl).trans (by simp)
  | upload name parts =>
    -- The parts are unions within a union, and everything in there is stored.
    have stored : Scope.HasRoom 3 ({ scope with stored := true } : Scope).inner.inner := Or.inl rfl
    exact (value?_union room fits rfl (by simp) rfl).trans
      (by simp [UploadPart.decoder_toJson stored])

theorem toJson_ne_null (b : RequestBody) : b.toJson ≠ .null := by
  cases b <;> nofun

end RequestBody

@[simp] theorem StreamingResponse.decoder_toJson (s : StreamingResponse) :
    (StreamingResponse.decoder scope s.toJson).value? = some s := by
  rw [StreamingResponse.decoder, StreamingResponse.toJson,
    structured_object (by simp)]
  simp

@[simp] theorem StreamingResponse.toJson_ne_null (s : StreamingResponse) : s.toJson ≠ .null := nofun

theorem Endpoint.decoder_toJson (room : scope.HasRoom 6) (e : Endpoint) :
    (Endpoint.decoder scope e.toJson).value? = some e := by
  have request := MethodRequest.decoder_toJson (room.inner.mono (by decide : 4 ≤ 5))
  have body := RequestBody.decoder_toJson room.inner
  rw [Endpoint.decoder, Endpoint.toJson, structured_object (by simp [docsMember])]
  simp [docsMember, request, body, RequestBody.toJson_ne_null]

theorem Service.decoder_toJson (room : scope.HasRoom 8) (s : Service) :
    (Service.decoder scope s.toJson).value? = some s := by
  have path : (Service.pathDecoder scope.inner
      (.object [("declarationPath", s.path.toJson)])).value? = some s.path := by
    rw [Service.pathDecoder, structured_object (by simp)]
    simp
  rw [Service.decoder, Service.toJson, structured_object (by simp)]
  simp [path, Endpoint.decoder_toJson room.inner.inner]

/-! ### Packages -/

@[simp] theorem RootPackage.decoder_toJson (p : RootPackage) :
    (RootPackage.decoder scope p.toJson).value? = some p := by
  rw [RootPackage.decoder, RootPackage.toJson, structured_object (by simp [docsMember])]
  simp [docsMember]

@[simp] theorem RootPackage.toJson_ne_null (p : RootPackage) : p.toJson ≠ .null := nofun

@[simp] theorem Subpackage.decoder_toJson (p : Subpackage) :
    (Subpackage.decoder scope p.toJson).value? = some p := by
  rw [Subpackage.decoder, Subpackage.toJson, structured_object (by simp [docsMember])]
  simp [docsMember]

/-! ### The whole definition -/

@[simp] theorem Variable.decoder_toJson (v : Variable) :
    (Variable.decoder scope v.toJson).value? = some v := by
  rw [Variable.decoder, Variable.toJson, structured_object (by simp)]
  simp

@[simp] theorem Environment.decoder_toJson (e : Environment) :
    (Environment.decoder scope e.toJson).value? = some e := by
  rw [Environment.decoder, Environment.toJson, structured_object (by simp)]
  simp

@[simp] theorem Environments.decoder_toJson (e : Environments) :
    (Environments.decoder scope e.toJson).value? = some e := by
  rw [Environments.decoder, Environments.toJson, structured_object (by simp)]
  simp

@[simp] theorem Environments.toJson_ne_null (e : Environments) : e.toJson ≠ .null := nofun

@[simp] theorem TypeUsage.decoder_toJson (u : TypeUsage) :
    (TypeUsage.decoder scope u.toJson).value? = some u := by
  rw [TypeUsage.decoder, TypeUsage.toJson, structured_object (by simp)]
  simp

@[simp] theorem TypeUsage.toJson_ne_null (u : TypeUsage) : u.toJson ≠ .null := nofun

namespace Api

theorem decoder_toJson (room : scope.HasRoom 10) (api : Api) :
    (Api.decoder scope api.toJson).value? = some api := by
  have type := TypeDeclaration.decoder_toJson (room.inner.inner.mono (by decide : 6 ≤ 8))
  have service := Service.decoder_toJson room.inner.inner
  have streaming (b : Bool) : (streamingDecoder scope.inner
      (.object [("hasStreamingEndpoints", .bool b)])).value? = some b := by
    rw [streamingDecoder, structured_object (by simp)]
    simp
  rw [decoder, toJson, structured_object (by simp)]
  simp [type, service, streaming]

/-- **An API definition survives being written and read.** What is written is read back as it was:
all tables and sets in their order, and every optional field there or not as before. So whatever a
document is read as, it is again after being written and read once more. -/
theorem decoder_value_toJson :
    (∀ api : Api, Api.decoder.value api.toJson = .ok api) ∧
      ∀ (document : Json) (api : Api), Api.decoder.value document = .ok api →
        Api.decoder.value api.toJson = .ok api := by
  have back : ∀ api : Api, Api.decoder.value api.toJson = .ok api := fun api => by
    have room : Scope.top.HasRoom 10 := Or.inr (by decide)
    rw [Json.Decoder.value, Decoded.value?_eq_some.1 (decoder_toJson room api)]
  exact ⟨back, fun _ api _ => back api⟩

end Api

/-- The name of the definition that a loosely written document is read as. -/
def looseName : Name :=
  ⟨"a", ⟨"a", "a"⟩, ⟨"A", "A"⟩, ⟨"a", "a"⟩, ⟨"A", "A"⟩⟩

/-- A document that no definition is written as: its members are not in order, one of them is not
known, a structure is written as an array, and a set repeats a member. -/
def looseDocument : Json :=
  .object [
    ("version", .natural 3),
    ("types", .object [("T", .object [
      ("shape", .array [.string "alias"]),
      ("referencedTypes", Json.strings ["U", "T", "U"]),
      ("name", .array [.string "T", .object [("allParts", .array [])], looseName.toJson])])]),
    ("apiName", looseName.toJson)]

/-- What the loosely written document is read as. -/
def looseApi : Api :=
  { Api.empty looseName with
    types := ⟨[(⟨"T"⟩, ⟨⟨"T"⟩, .root, looseName, .alias none, ⟨[⟨"U"⟩, ⟨"T"⟩], by decide⟩, none⟩)],
      by decide⟩ }

theorem decoder_value_toJson_looseApi :
    Api.decoder.value looseDocument = .ok looseApi ∧
      Api.decoder.value looseApi.toJson = .ok looseApi := by
  have read : Api.decoder.value looseDocument = .ok looseApi := by rfl
  exact ⟨read, Api.decoder_value_toJson.2 looseDocument looseApi read⟩

end SdkLayout
