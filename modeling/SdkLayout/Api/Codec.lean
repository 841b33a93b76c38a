import SdkLayout.Api.Basic
import SdkLayout.Json.Decoder
import SdkLayout.Target

/-!
# The JSON form of API definitions

Every part of an API definition has a JSON form (`toJson`) and a decoder that reads it back. The
fields of a structure are written in declaration order, tables in the order of their entries.
Optional fields are left out when they are absent, with one exception: a declaration path always
writes its file, as null if there is none.

A decoder is more liberal than the writer: see `SdkLayout.Json.Decoder` for what it accepts.
-/

namespace SdkLayout

open Json (Decoder Decoded structured union member optionalMember)

/-! ### Names and paths -/

/-- The JSON form of a cased name. -/
def CasedName.toJson (n : CasedName) : Json :=
  .object [("safeName", .string n.safe), ("unsafeName", .string n.plain)]

/-- Reads a cased name. -/
def CasedName.decoder : Decoder CasedName :=
  structured ["safeName", "unsafeName"] fun f =>
    CasedName.mk <$> f.required "safeName" .string <*> f.required "unsafeName" .string

/-- The JSON form of a name. -/
def Name.toJson (n : Name) : Json :=
  .object [("originalName", .string n.identifier), ("camelCase", n.camel.toJson),
    ("pascalCase", n.pascal.toJson), ("snakeCase", n.snake.toJson),
    ("screamingSnakeCase", n.screamingSnake.toJson)]

/-- Reads a name. -/
def Name.decoder : Decoder Name :=
  structured ["originalName", "camelCase", "pascalCase", "snakeCase", "screamingSnakeCase"] fun f =>
    Name.mk <$> f.required "originalName" .string
      <*> f.required "camelCase" CasedName.decoder
      <*> f.required "pascalCase" CasedName.decoder
      <*> f.required "snakeCase" CasedName.decoder
      <*> f.required "screamingSnakeCase" CasedName.decoder

/-- The JSON form of a list of names. -/
def Name.listToJson (names : List Name) : Json :=
  .array (names.map Name.toJson)

namespace DeclarationPath

/-- The JSON form of a path. -/
def toJson (p : DeclarationPath) : Json :=
  .object [("allParts", Name.listToJson p.allParts), ("packagePath", Name.listToJson p.packagePath),
    ("file", Json.orNull (p.file.map Name.toJson))]

/-- A path as a document gives it, before its two spellings are compared. -/
structure Spelling where
  allParts : List Name
  packagePath : List Name
  file : Option Name

/-- Reads both spellings of a path. -/
def Spelling.decoder : Decoder Spelling :=
  structured ["allParts", "packagePath", "file"] fun f =>
    Spelling.mk <$> f.required "allParts" (.list Name.decoder)
      <*> f.defaulted "packagePath" [] (.list Name.decoder)
      <*> f.optional "file" Name.decoder

/-- The path that both spellings agree on, if they do. -/
def Spelling.path? (s : Spelling) : Option DeclarationPath :=
  if h : s.allParts.map Name.identifier = (s.packagePath ++ s.file.toList).map Name.identifier then
    some ⟨s.allParts, s.packagePath, s.file, h⟩
  else none

/-- The number of members of a container. -/
def memberCount : Json → Nat
  | .array elements => elements.length
  | .object members => members.length
  | _ => 0

/-- Reads a path. That its spellings disagree shows at the end of the path. -/
def decoder : Decoder DeclarationPath := fun scope j =>
  match Spelling.decoder scope j with
  | .fault f => .fault f
  | .ok s =>
    match s.path? with
    | some p => .ok p
    | none => .fault ⟨[memberCount j], .disagreeingPath (s.allParts.map Name.identifier)⟩

end DeclarationPath

/-- How a decoding error is explained, for the errors that have an explanation. -/
def Json.DecodeError.explanation? : Json.DecodeError → Option String
  | .unreadable => none
  | .disagreeingPath parts =>
    some ("allParts [" ++ "/".intercalate parts ++ "] is not packagePath followed by file")

/-- The JSON form of a target. -/
def Target.toJson (t : Target) : Json :=
  .object [("filename", .string t.filename), ("package_name", .string t.package)]

/-- Reads a target. -/
def Target.decoder : Decoder Target :=
  structured ["filename", "package_name"] fun f =>
    Target.mk <$> f.required "filename" .string <*> f.required "package_name" .string

/-! ### Identifiers -/

namespace Id

variable {kind : IdKind}

/-- The JSON form of an identifier. -/
def toJson (id : Id kind) : Json :=
  .string id.text

/-- Reads an identifier. -/
def decoder : Decoder (Id kind) :=
  Json.Decoder.string.map Id.mk

/-- The JSON form of a list of identifiers. -/
def listToJson (ids : List (Id kind)) : Json :=
  .array (ids.map toJson)

end Id

/-- The JSON form of a table keyed by identifiers. -/
def Table.toJson {kind : IdKind} {α : Type} (value : α → Json) (t : Table (Id kind) α) : Json :=
  .object (t.entries.map fun e => (e.1.text, value e.2))

/-- Reads a table keyed by identifiers. -/
def Table.decoder {kind : IdKind} {α : Type} (d : Decoder α) : Decoder (Table (Id kind) α) :=
  Json.Decoder.table Id.mk d

/-- The member for optional documentation. -/
def docsMember (docs : Option String) : List (String × Json) :=
  optionalMember "docs" (docs.map .string)

/-! ### Types and errors -/

/-- The JSON form of a property. -/
def Property.toJson (p : Property) : Json :=
  .object (member "name" p.name.toJson ++ docsMember p.docs)

/-- Reads a property. -/
def Property.decoder : Decoder Property :=
  structured ["name", "docs"] fun f =>
    Property.mk <$> f.required "name" Name.decoder <*> f.optional "docs" .string

/-- The JSON form of a variant. -/
def Variant.toJson (v : Variant) : Json :=
  .object (member "discriminantValue" v.discriminant.toJson
    ++ optionalMember "typeId" (v.type.map Id.toJson))

/-- Reads a variant. -/
def Variant.decoder : Decoder Variant :=
  structured ["discriminantValue", "typeId"] fun f =>
    Variant.mk <$> f.required "discriminantValue" Name.decoder <*> f.optional "typeId" Id.decoder

namespace TypeShape

/-- The JSON form of a shape. -/
def toJson : TypeShape → Json
  | .object bases properties =>
    .object [("type", .string "object"), ("extends", Id.listToJson bases),
      ("properties", .array (properties.map Property.toJson))]
  | .union discriminant variants =>
    .object [("type", .string "union"), ("discriminant", discriminant.toJson),
      ("variants", .array (variants.map Variant.toJson))]
  | .alias target =>
    .object (member "type" (.string "alias") ++ optionalMember "aliasOf" (target.map Id.toJson))
  | .enum values =>
    .object [("type", .string "enum"), ("values", Name.listToJson values)]

/-- Reads a shape. -/
def decoder : Decoder TypeShape :=
  Json.union
    [("object", structured ["extends", "properties"] fun f =>
        TypeShape.object <$> f.defaulted "extends" [] (.list Id.decoder)
          <*> f.defaulted "properties" [] (.list Property.decoder)),
      ("union", structured ["discriminant", "variants"] fun f =>
        TypeShape.union <$> f.required "discriminant" Name.decoder
          <*> f.defaulted "variants" [] (.list Variant.decoder)),
      ("alias", structured ["aliasOf"] fun f =>
        TypeShape.alias <$> f.optional "aliasOf" Id.decoder),
      ("enum", structured ["values"] fun f =>
        TypeShape.enum <$> f.defaulted "values" [] (.list Name.decoder))]

end TypeShape

/-- Where and under which name something is declared. -/
structure Declared (kind : IdKind) where
  id : Id kind
  path : DeclarationPath
  name : Name

/-- The JSON form of the place of a declaration; `key` is the member with its identifier. -/
def Declared.toJson {kind : IdKind} (key : String) (d : Declared kind) : Json :=
  .object [(key, d.id.toJson), ("declarationPath", d.path.toJson), ("name", d.name.toJson)]

/-- Reads the place of a declaration. -/
def Declared.decoder {kind : IdKind} (key : String) : Decoder (Declared kind) :=
  structured [key, "declarationPath", "name"] fun f =>
    Declared.mk <$> f.required key Id.decoder
      <*> f.required "declarationPath" DeclarationPath.decoder
      <*> f.required "name" Name.decoder

namespace TypeDeclaration

/-- The JSON form of a type declaration. -/
def toJson (t : TypeDeclaration) : Json :=
  .object (member "name" (Declared.toJson "typeId" ⟨t.id, t.path, t.name⟩)
    ++ member "shape" t.shape.toJson
    ++ member "referencedTypes" (Id.listToJson t.references.toList)
    ++ docsMember t.docs)

/-- The type declaration of a place. -/
def ofDeclared (d : Declared .type) (shape : TypeShape) (references : OrderedSet TypeId)
    (docs : Option String) : TypeDeclaration :=
  ⟨d.id, d.path, d.name, shape, references, docs⟩

/-- Reads a type declaration. -/
def decoder : Decoder TypeDeclaration :=
  structured ["name", "shape", "referencedTypes", "docs"] fun f =>
    ofDeclared <$> f.required "name" (Declared.decoder "typeId")
      <*> f.required "shape" TypeShape.decoder
      <*> f.defaulted "referencedTypes" .empty (.orderedSet Id.decoder)
      <*> f.optional "docs" .string

end TypeDeclaration

namespace ErrorDeclaration

/-- The JSON form of an error declaration. -/
def toJson (e : ErrorDeclaration) : Json :=
  .object (member "name" (Declared.toJson "errorId" ⟨e.id, e.path, e.name⟩)
    ++ member "statusCode" (.natural e.statusCode.toNat)
    ++ optionalMember "discriminantValue" (e.discriminant.map Name.toJson)
    ++ optionalMember "bodyType" (e.body.map Id.toJson))

/-- The error declaration of a place. -/
def ofDeclared (d : Declared .error) (statusCode : UInt16) (discriminant : Option Name)
    (body : Option TypeId) : ErrorDeclaration :=
  ⟨d.id, d.path, d.name, statusCode, discriminant, body⟩

/-- Reads an error declaration. -/
def decoder : Decoder ErrorDeclaration :=
  structured ["name", "statusCode", "discriminantValue", "bodyType"] fun f =>
    ofDeclared <$> f.required "name" (Declared.decoder "errorId")
      <*> f.required "statusCode" .word16
      <*> f.optional "discriminantValue" Name.decoder
      <*> f.optional "bodyType" Id.decoder

end ErrorDeclaration

/-! ### Services -/

/-- The JSON form of a request shape. -/
def RequestShape.toJson : RequestShape → Json
  | .body type =>
    .object (member "type" (.string "justRequestBody")
      ++ optionalMember "requestBodyType" (type.map Id.toJson))
  | .wrapper name bodyKey =>
    .object [("type", .string "wrapper"), ("wrapperName", name.toJson), ("bodyKey", bodyKey.toJson)]

/-- Reads a request shape. -/
def RequestShape.decoder : Decoder RequestShape :=
  union
    [("justRequestBody", structured ["requestBodyType"] fun f =>
        RequestShape.body <$> f.optional "requestBodyType" Id.decoder),
      ("wrapper", structured ["wrapperName", "bodyKey"] fun f =>
        RequestShape.wrapper <$> f.required "wrapperName" Name.decoder
          <*> f.required "bodyKey" Name.decoder)]

/-- The JSON form of the request of a method. -/
def MethodRequest.toJson (r : MethodRequest) : Json :=
  .object (member "shape" r.shape.toJson
    ++ optionalMember "requestParameterName" (r.parameter.map Name.toJson))

/-- Reads the request of a method. -/
def MethodRequest.decoder : Decoder MethodRequest :=
  structured ["shape", "requestParameterName"] fun f =>
    MethodRequest.mk <$> f.required "shape" RequestShape.decoder
      <*> f.optional "requestParameterName" Name.decoder

/-- The JSON form of a part of an upload. -/
def UploadPart.toJson : UploadPart → Json
  | .file key => .object [("type", .string "file"), ("key", key.toJson)]
  | .field name => .object [("type", .string "bodyProperty"), ("name", name.toJson)]

/-- Reads a part of an upload. -/
def UploadPart.decoder : Decoder UploadPart :=
  union
    [("file", structured ["key"] fun f => UploadPart.file <$> f.required "key" Name.decoder),
      ("bodyProperty", structured ["name"] fun f =>
        UploadPart.field <$> f.required "name" Name.decoder)]

/-- The JSON form of a request body. -/
def RequestBody.toJson : RequestBody → Json
  | .inlined name properties =>
    .object [("type", .string "inlinedRequestBody"), ("name", name.toJson),
      ("properties", .array (properties.map Property.toJson))]
  | .reference type =>
    .object [("type", .string "reference"), ("requestBodyType", type.toJson)]
  | .upload name parts =>
    .object [("type", .string "fileUpload"), ("name", name.toJson),
      ("properties", .array (parts.map UploadPart.toJson))]

/-- Reads a request body. -/
def RequestBody.decoder : Decoder RequestBody :=
  union
    [("inlinedRequestBody", structured ["name", "properties"] fun f =>
        RequestBody.inlined <$> f.required "name" Name.decoder
          <*> f.defaulted "properties" [] (.list Property.decoder)),
      ("reference", structured ["requestBodyType"] fun f =>
        RequestBody.reference <$> f.required "requestBodyType" Id.decoder),
      ("fileUpload", structured ["name", "properties"] fun f =>
        RequestBody.upload <$> f.required "name" Name.decoder
          <*> f.defaulted "properties" [] (.list UploadPart.decoder))]

/-- The JSON form of a streamed response. -/
def StreamingResponse.toJson (s : StreamingResponse) : Json :=
  .object (optionalMember "dataType" (s.data.map Id.toJson)
    ++ optionalMember "terminator" (s.terminator.map .string))

/-- Reads a streamed response. -/
def StreamingResponse.decoder : Decoder StreamingResponse :=
  structured ["dataType", "terminator"] fun f =>
    StreamingResponse.mk <$> f.optional "dataType" Id.decoder <*> f.optional "terminator" .string

/-- The JSON form of an endpoint. -/
def Endpoint.toJson (e : Endpoint) : Json :=
  .object (member "name" e.name.toJson
    ++ optionalMember "sdkRequest" (e.request.map MethodRequest.toJson)
    ++ optionalMember "requestBody" (e.body.map RequestBody.toJson)
    ++ optionalMember "streamingResponse" (e.stream.map StreamingResponse.toJson)
    ++ docsMember e.docs)

/-- Reads an endpoint. -/
def Endpoint.decoder : Decoder Endpoint :=
  structured ["name", "sdkRequest", "requestBody", "streamingResponse", "docs"] fun f =>
    Endpoint.mk <$> f.required "name" Name.decoder
      <*> f.optional "sdkRequest" MethodRequest.decoder
      <*> f.optional "requestBody" RequestBody.decoder
      <*> f.optional "streamingResponse" StreamingResponse.decoder
      <*> f.optional "docs" .string

/-- The JSON form of a service. -/
def Service.toJson (s : Service) : Json :=
  .object [("name", .object [("declarationPath", s.path.toJson)]),
    ("endpoints", .array (s.endpoints.map Endpoint.toJson))]

/-- Reads where a service is declared. -/
def Service.pathDecoder : Decoder DeclarationPath :=
  structured ["declarationPath"] fun f => f.required "declarationPath" DeclarationPath.decoder

/-- Reads a service. -/
def Service.decoder : Decoder Service :=
  structured ["name", "endpoints"] fun f =>
    Service.mk <$> f.required "name" Service.pathDecoder
      <*> f.defaulted "endpoints" [] (.list Endpoint.decoder)

/-! ### Packages -/

/-- The JSON form of the root package. -/
def RootPackage.toJson (p : RootPackage) : Json :=
  .object (member "declarationPath" p.path.toJson
    ++ optionalMember "service" (p.service.map Id.toJson)
    ++ member "subpackages" (Id.listToJson p.children)
    ++ member "hasEndpointsInTree" (.bool p.hasEndpointsInTree)
    ++ docsMember p.docs)

/-- Reads the root package. -/
def RootPackage.decoder : Decoder RootPackage :=
  structured ["declarationPath", "service", "subpackages", "hasEndpointsInTree", "docs"] fun f =>
    RootPackage.mk <$> f.required "declarationPath" DeclarationPath.decoder
      <*> f.optional "service" Id.decoder
      <*> f.defaulted "subpackages" [] (.list Id.decoder)
      <*> f.defaulted "hasEndpointsInTree" false .bool
      <*> f.optional "docs" .string

/-- The JSON form of a subpackage. -/
def Subpackage.toJson (p : Subpackage) : Json :=
  .object (member "name" p.name.toJson
    ++ member "declarationPath" p.path.toJson
    ++ optionalMember "service" (p.service.map Id.toJson)
    ++ member "subpackages" (Id.listToJson p.children)
    ++ member "hasEndpointsInTree" (.bool p.hasEndpointsInTree)
    ++ docsMember p.docs)

/-- Reads a subpackage. -/
def Subpackage.decoder : Decoder Subpackage :=
  structured ["name", "declarationPath", "service", "subpackages", "hasEndpointsInTree",
      "docs"] fun f =>
    Subpackage.mk <$> f.required "name" Name.decoder
      <*> f.required "declarationPath" DeclarationPath.decoder
      <*> f.optional "service" Id.decoder
      <*> f.defaulted "subpackages" [] (.list Id.decoder)
      <*> f.defaulted "hasEndpointsInTree" false .bool
      <*> f.optional "docs" .string

/-! ### The whole definition -/

/-- The JSON form of a variable. -/
def Variable.toJson (v : Variable) : Json :=
  .object [("id", .string v.id), ("name", v.name.toJson)]

/-- Reads a variable. -/
def Variable.decoder : Decoder Variable :=
  structured ["id", "name"] fun f =>
    Variable.mk <$> f.required "id" .string <*> f.required "name" Name.decoder

/-- The JSON form of an environment. -/
def Environment.toJson (e : Environment) : Json :=
  .object (member "id" e.id.toJson ++ member "name" e.name.toJson
    ++ optionalMember "url" (e.url.map .string))

/-- Reads an environment. -/
def Environment.decoder : Decoder Environment :=
  structured ["id", "name", "url"] fun f =>
    Environment.mk <$> f.required "id" Id.decoder <*> f.required "name" Name.decoder
      <*> f.optional "url" .string

/-- The JSON form of the environments. -/
def Environments.toJson (e : Environments) : Json :=
  .object (optionalMember "defaultEnvironment" (e.default.map Id.toJson)
    ++ member "environments" (.array (e.all.map Environment.toJson)))

/-- Reads the environments. -/
def Environments.decoder : Decoder Environments :=
  structured ["defaultEnvironment", "environments"] fun f =>
    Environments.mk <$> f.optional "defaultEnvironment" Id.decoder
      <*> f.defaulted "environments" [] (.list Environment.decoder)

/-- The JSON form of the usage of types. -/
def TypeUsage.toJson (u : TypeUsage) : Json :=
  .object [("typesReferencedOnlyByService", u.onlyByService.toJson Id.listToJson),
    ("sharedTypes", Id.listToJson u.shared)]

/-- Reads the usage of types. -/
def TypeUsage.decoder : Decoder TypeUsage :=
  structured ["typesReferencedOnlyByService", "sharedTypes"] fun f =>
    TypeUsage.mk <$> f.defaulted "typesReferencedOnlyByService" .empty
        (Table.decoder (.list Id.decoder))
      <*> f.defaulted "sharedTypes" [] (.list Id.decoder)

namespace Api

/-- The JSON form of an API definition. -/
def toJson (api : Api) : Json :=
  .object (member "apiName" api.name.toJson
    ++ member "types" (api.types.toJson TypeDeclaration.toJson)
    ++ member "errors" (api.errors.toJson ErrorDeclaration.toJson)
    ++ member "services" (api.services.toJson Service.toJson)
    ++ member "subpackages" (api.subpackages.toJson Subpackage.toJson)
    ++ optionalMember "rootPackage" (api.rootPackage.map RootPackage.toJson)
    ++ member "variables" (.array (api.globals.map Variable.toJson))
    ++ optionalMember "serviceTypeReferenceInfo" (api.typeUsage.map TypeUsage.toJson)
    ++ optionalMember "environments" (api.environments.map Environments.toJson)
    ++ member "sdkConfig" (.object [("hasStreamingEndpoints", .bool api.declaresStreaming)]))

/-- Reads whether the SDK is said to have streaming endpoints. -/
def streamingDecoder : Decoder Bool :=
  structured ["hasStreamingEndpoints"] fun f => f.defaulted "hasStreamingEndpoints" false .bool

/-- Reads an API definition. -/
def decoder : Decoder Api :=
  structured ["apiName", "types", "errors", "services", "subpackages", "rootPackage", "variables",
      "serviceTypeReferenceInfo", "environments", "sdkConfig"] fun f =>
    Api.mk <$> f.required "apiName" Name.decoder
      <*> f.defaulted "types" .empty (Table.decoder TypeDeclaration.decoder)
      <*> f.defaulted "errors" .empty (Table.decoder ErrorDeclaration.decoder)
      <*> f.defaulted "services" .empty (Table.decoder Service.decoder)
      <*> f.defaulted "subpackages" .empty (Table.decoder Subpackage.decoder)
      <*> f.optional "rootPackage" RootPackage.decoder
      <*> f.defaulted "variables" [] (.list Variable.decoder)
      <*> f.optional "serviceTypeReferenceInfo" TypeUsage.decoder
      <*> f.optional "environments" Environments.decoder
      <*> f.defaulted "sdkConfig" false streamingDecoder

end Api

end SdkLayout
