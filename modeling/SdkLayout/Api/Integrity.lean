import SdkLayout.Api.Basic

/-!
# Referential integrity

A definition is intact if every table entry declares itself under its own key and every identifier
that something refers to is a key of its table. `Api.violations` lists everything that is wrong in
the order of the document, an entry's own key before its references; `Api.validate` reports the
first.
-/

namespace SdkLayout

/-- A way in which a definition is not intact. -/
inductive IntegrityError where
  | danglingType (referrer : String) (type : TypeId)
  | danglingService (referrer : String) (service : ServiceId)
  | danglingSubpackage (referrer : String) (subpackage : SubpackageId)
  /-- An entry of a table declares itself under another key than its own. -/
  | mismatchedKey (table key declared : String)
  deriving DecidableEq, Repr

/-- The wording of a violation. -/
def IntegrityError.message : IntegrityError → String
  | .danglingType referrer type =>
    referrer ++ " references type '" ++ type.text ++ "' which doesn't exist"
  | .danglingService referrer service =>
    referrer ++ " references service '" ++ service.text ++ "' which doesn't exist"
  | .danglingSubpackage referrer subpackage =>
    referrer ++ " references subpackage '" ++ subpackage.text ++ "' which doesn't exist"
  | .mismatchedKey table key declared =>
    table ++ " entry '" ++ key ++ "' declares itself as '" ++ declared ++ "'"

namespace Api

/-- The violation of an entry under a key that is not its own. -/
def keyViolations {kind : IdKind} (table : String) (key declared : Id kind) :
    List IntegrityError :=
  if key = declared then [] else [.mismatchedKey table key.text declared.text]

/-- The violations of references to types. -/
def typeViolations (api : Api) (referrer : String) (types : List TypeId) : List IntegrityError :=
  (types.filter fun t => !api.types.contains t).map (.danglingType referrer)

/-- The violations of references to services. -/
def serviceViolations (api : Api) (referrer : String) (services : List ServiceId) :
    List IntegrityError :=
  (services.filter fun s => !api.services.contains s).map (.danglingService referrer)

/-- The violations of references to subpackages. -/
def childViolations (api : Api) (referrer : String) (children : List SubpackageId) :
    List IntegrityError :=
  (children.filter fun c => !api.subpackages.contains c).map (.danglingSubpackage referrer)

/-- The violations of an entry of the types table. -/
def typeEntryViolations (api : Api) (key : TypeId) (t : TypeDeclaration) : List IntegrityError :=
  keyViolations "types" key t.id
    ++ api.typeViolations ("type '" ++ key.text ++ "'") t.references.toList

/-- The violations of an entry of the errors table. -/
def errorEntryViolations (api : Api) (key : ErrorId) (e : ErrorDeclaration) :
    List IntegrityError :=
  keyViolations "errors" key e.id
    ++ api.typeViolations ("error '" ++ key.text ++ "'") e.body.toList

/-- The types that an endpoint refers to: by its body, its request and its response. -/
def endpointTypes (e : Endpoint) : List TypeId :=
  (match e.body with
    | some (.reference type) => [type]
    | _ => [])
  ++ (match e.request with
    | some ⟨.body (some type), _⟩ => [type]
    | _ => [])
  ++ (match e.stream with
    | some ⟨some type, _⟩ => [type]
    | _ => [])

/-- The violations of an entry of the services table. -/
def serviceEntryViolations (api : Api) (key : ServiceId) (s : Service) : List IntegrityError :=
  s.endpoints.flatMap fun e =>
    api.typeViolations ("endpoint '" ++ key.text ++ "." ++ e.name.identifier ++ "'")
      (endpointTypes e)

/-- The violations of a package that owns a service and has children. -/
def packageViolations (api : Api) (referrer : String) (service : Option ServiceId)
    (children : List SubpackageId) : List IntegrityError :=
  api.serviceViolations referrer service.toList ++ api.childViolations referrer children

/-- The violations of the root package. -/
def rootViolations (api : Api) : List IntegrityError :=
  match api.rootPackage with
  | none => []
  | some root => api.packageViolations "root package" root.service root.children

/-- The violations of an entry of the subpackages table. -/
def subpackageEntryViolations (api : Api) (key : SubpackageId) (p : Subpackage) :
    List IntegrityError :=
  api.packageViolations ("subpackage '" ++ key.text ++ "'") p.service p.children

/-- All violations, in the order of the document. -/
def violations (api : Api) : List IntegrityError :=
  (api.types.entries.flatMap fun e => api.typeEntryViolations e.1 e.2)
    ++ (api.errors.entries.flatMap fun e => api.errorEntryViolations e.1 e.2)
    ++ (api.services.entries.flatMap fun e => api.serviceEntryViolations e.1 e.2)
    ++ api.rootViolations
    ++ (api.subpackages.entries.flatMap fun e => api.subpackageEntryViolations e.1 e.2)

/-- Accepts an intact definition, and reports the first violation of any other. -/
def validate (api : Api) : Except IntegrityError Unit :=
  match api.violations with
  | [] => .ok ()
  | e :: _ => .error e

end Api

end SdkLayout
