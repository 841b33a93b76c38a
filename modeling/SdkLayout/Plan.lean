import SdkLayout.Api.Codec
import SdkLayout.Artifact
import SdkLayout.Json.Printer
import SdkLayout.Placement.Packages

/-!
# Layout plans

A plan lists every file that a run generates, section by section, each section in order. It is the
result of planning and the input of rendering; equal inputs have equal plans, down to the text.
-/

namespace SdkLayout

/-- Everything that a run generates, and where. -/
structure Plan where
  apiName : String
  rootPackage : String
  mode : Mode
  strategy : Strategy
  /-- The files with types and requests. -/
  files : List (FileOf Placed)
  errors : List (FileOf ErrorId)
  docs : List DocFile
  clients : List Client
  artifacts : List Artifact
  module : Option ModuleFile
  deriving DecidableEq

/-- How an artifact is written in plans and messages. -/
def Artifact.display (a : Artifact) : String :=
  a.kind.name ++ " -> " ++ a.target.display ++ (if a.useCore then " [core]" else "")

namespace Plan

/-- Plans an API whose packages do not import each other in a circle. `tree` is its package tree in
normal form. -/
def build (config : Config) (api : Api) (registry : Registry) (tree : NormalTree) :
    Except LayoutError Plan :=
  match api.placeFiles config.mode.placesRequests with
  | .error e => .error e
  | .ok files =>
    match (if config.mode.placesClient then api.placeClients tree else .ok []) with
    | .error e => .error e
    | .ok clients =>
      .ok
        { apiName := api.name.identifier
          rootPackage := api.rootPackageName
          mode := config.mode
          strategy := .ofApi api
          files
          errors := if config.mode.placesClient then api.placeErrors else []
          docs := api.placeDocs
          clients
          artifacts := placeArtifacts config api registry
          module := placeModule config api }

/-- The targets of all sections. -/
def targets (p : Plan) : List Target :=
  p.files.map FileOf.target ++ p.errors.map FileOf.target ++ p.docs.map DocFile.target
    ++ p.clients.map Client.target ++ p.artifacts.map Artifact.target

/-- The file of types and requests with a name. -/
def file? (p : Plan) (filename : String) : Option (FileOf Placed) :=
  p.files.find? fun f => f.target.filename == filename

/-- The artifact of a kind. -/
def artifact? (p : Plan) (kind : ArtifactKind) : Option Artifact :=
  p.artifacts.find? fun a => decide (a.kind = kind)

/-- The artifacts that a collision moved. -/
def fallbacks (p : Plan) : List Artifact :=
  p.artifacts.filter Artifact.isFallback

/-- The number of types and requests. -/
def declarationCount (p : Plan) : Nat :=
  (p.files.flatMap FileOf.contents).length

/-! ### Text -/

/-- A line of text. -/
def line (text : String) : String :=
  text ++ "\n"

/-- A section: its heading and its lines, nothing if there are no items. -/
def textSection {α : Type} (heading : String) (items : List α) (lines : α → List String) :
    String :=
  if items.isEmpty then ""
  else String.join ((heading :: items.flatMap lines).map line)

/-- The line for the module file. -/
def moduleText (m : ModuleFile) : String :=
  line ("module: " ++ m.filename ++ " (" ++ m.path ++ ")"
    ++ (if m.requiresGenerics then " [generics]" else ""))

/-- The text of a plan. -/
def display (p : Plan) : String :=
  line (p.apiName ++ " (mode " ++ p.mode.name ++ ", strategy " ++ p.strategy.name ++ ")")
    ++ textSection "files:" p.files (fun f =>
        ("  " ++ f.target.display) :: f.contents.map fun d => "    " ++ d.display)
    ++ textSection "errors:" p.errors (fun f =>
        ("  " ++ f.target.display) :: f.contents.map fun e => "    error " ++ e.text)
    ++ textSection "docs:" p.docs (fun d => ["  " ++ d.target.display])
    ++ textSection "clients:" p.clients (fun c =>
        ("  " ++ c.target.display) :: c.children.map fun child => "    child " ++ child.text)
    ++ textSection "artifacts:" p.artifacts (fun a => ["  " ++ a.display])
    ++ (p.module.map moduleText).getD ""

end Plan

/-! ### JSON form -/

/-- The JSON form of a declaration in a file. -/
def Placed.toJson : Placed → Json
  | .type id => .object [("kind", .string "type"), ("type_id", id.toJson)]
  | .request service endpoint =>
    .object [("kind", .string "inlined_request"), ("service_id", service.toJson),
      ("endpoint", .string endpoint)]

/-- The JSON form of a file; `key` is the member with its contents. -/
def FileOf.toJson {α : Type} (key : String) (item : α → Json) (f : FileOf α) : Json :=
  .object [("target", f.target.toJson), (key, .array (f.contents.map item))]

/-- The JSON form of a documentation file. -/
def DocFile.toJson (d : DocFile) : Json :=
  .object [("target", d.target.toJson), ("subpackage_id", Json.orNull (d.subpackage.map Id.toJson))]

/-- The JSON form of a client. -/
def Client.toJson (c : Client) : Json :=
  .object [("target", c.target.toJson), ("subpackage_id", Json.orNull (c.subpackage.map Id.toJson)),
    ("service_id", Json.orNull (c.service.map Id.toJson)),
    ("original_path", c.declaredPath.toJson), ("children", Id.listToJson c.children)]

/-- The JSON form of an artifact. -/
def Artifact.toJson (a : Artifact) : Json :=
  .object [("kind", .string a.kind.name), ("target", a.target.toJson),
    ("use_core", .bool a.useCore)]

/-- The JSON form of the module file. -/
def ModuleFile.toJson (m : ModuleFile) : Json :=
  .object (Json.member "filename" (.string m.filename) ++ Json.member "path" (.string m.path)
    ++ Json.optionalMember "version" (m.version.map .string)
    ++ Json.member "requires_generics" (.bool m.requiresGenerics))

/-- A list as an array that is left out when it is empty. -/
def nonemptyMember {α : Type} (key : String) (item : α → Json) (items : List α) :
    List (String × Json) :=
  if items.isEmpty then [] else [(key, .array (items.map item))]

/-- The JSON form of a plan. -/
def Plan.toJson (p : Plan) : Json :=
  .object (Json.member "api_name" (.string p.apiName)
    ++ Json.member "root_package" (.string p.rootPackage)
    ++ Json.member "mode" (.string p.mode.name)
    ++ Json.member "strategy" (.string p.strategy.name)
    ++ Json.member "files" (.array (p.files.map (FileOf.toJson "declarations" Placed.toJson)))
    ++ nonemptyMember "errors" (FileOf.toJson "errors" Id.toJson) p.errors
    ++ nonemptyMember "docs" DocFile.toJson p.docs
    ++ nonemptyMember "clients" Client.toJson p.clients
    ++ Json.member "artifacts" (.array (p.artifacts.map Artifact.toJson))
    ++ Json.optionalMember "module" (p.module.map ModuleFile.toJson))

/-- The document that a plan is written to. -/
def Plan.document (p : Plan) : String :=
  p.toJson.pretty

end SdkLayout
