import SdkLayout.Input.Error
import SdkLayout.Toml.Tree

/-!
# Manifests

A manifest is a TOML document with two tables: `generator` holds settings, all of them with
defaults, and `module` says what module the SDK is published as, if it is one. Unknown keys are
refused. A table of settings may also be written as an array of its values in order.
-/

namespace SdkLayout

open Toml (Value Entries)

/-- The settings of a project. -/
structure Manifest where
  /-- The path of the API definition. -/
  definition : String
  importPath : Option String
  mode : Mode
  explicitNull : Bool
  organization : Option String
  module : Option ModuleConfig
  deriving DecidableEq, Repr

namespace Manifest

/-- The manifest that leaves everything at its default. -/
def default : Manifest where
  definition := "ir.json"
  importPath := none
  mode := .client
  explicitNull := false
  organization := none
  module := none

/-- The configuration that a manifest describes. -/
def config (m : Manifest) : Config where
  importPath := m.importPath.getD ""
  mode := m.mode
  explicitNull := m.explicitNull
  organization := m.organization
  module := m.module

/-! ### Values -/

/-- The text of a value. -/
def text? : Value → Option String
  | .scalar (.string s) => some s
  | _ => none

/-- The truth value of a value. -/
def flag? : Value → Option Bool
  | .scalar (.boolean b) => some b
  | _ => none

/-- Whether a value is a table or an array without contents. -/
def isVoid : Value → Bool
  | .table _ [] => true
  | .array _ [] => true
  | _ => false

/-- The mode of a value: its name, or a table with that name as the only key and nothing under
it. -/
def mode? : Value → Option Mode
  | .scalar (.string s) => Mode.ofName? s
  | .table _ [(name, v)] => if isVoid v then Mode.ofName? name else none
  | _ => none

/-! ### Tables of settings -/

/-- The settings in a value: the entries of a table without unknown keys, or the elements of an
array under the keys in order. -/
def settings? (keys : List String) : Value → Option Entries
  | .table _ entries => if entries.all fun e => keys.contains e.1 then some entries else none
  | .array _ elements => some (keys.zip elements)
  | .scalar _ => none

/-- A setting that may be absent. -/
def setting? {α : Type} (read : Value → Option α) (entries : Entries) (key : String) :
    Option (Option α) :=
  match Entries.get? entries key with
  | none => some none
  | some v => (read v).map some

/-- The manifest with the settings of the table `generator`. -/
def generator? (v : Value) : Option Manifest :=
  match settings? ["ir", "import_path", "mode", "enable_explicit_null", "organization"] v with
  | none => none
  | some entries => do
    let definition ← setting? text? entries "ir"
    let importPath ← setting? text? entries "import_path"
    let mode ← setting? mode? entries "mode"
    let explicitNull ← setting? flag? entries "enable_explicit_null"
    let organization ← setting? text? entries "organization"
    return { definition := definition.getD default.definition
             importPath
             mode := mode.getD default.mode
             explicitNull := explicitNull.getD default.explicitNull
             organization
             module := none }

/-- The module of the table `module`. -/
def module? (v : Value) : Option ModuleConfig :=
  match settings? ["path", "version"] v with
  | none => none
  | some entries => do
    let path ← setting? text? entries "path"
    let version ← setting? text? entries "version"
    return ⟨← path, version⟩

/-- The manifest of a document. -/
def ofEntries? (entries : Entries) : Option Manifest :=
  match settings? ["generator", "module"] (.table .header entries) with
  | none => none
  | some entries => do
    let settings ← setting? generator? entries "generator"
    let module ← setting? module? entries "module"
    return { settings.getD default with module }

/-! ### Reading -/

/-- The complaint about the values of a manifest, if there is one. -/
def complaint? (m : Manifest) (text file : String) : Option InputError :=
  match m.importPath.bind importPathFault? with
  | some fault => some (.ofSetting text file ["generator"] "import_path" fault.reason)
  | none =>
    if m.module.any fun mod => (Text.trim mod.path.toList).isEmpty then
      some (.ofSetting text file ["module"] "path" "module path cannot be empty")
    else none

/-- Reads a manifest. The name of its file is used in messages. -/
def read (text file : String) : Except InputError Manifest :=
  match (Toml.read? text.toList).bind ofEntries? with
  | none => .error .malformedManifest
  | some m =>
    match m.complaint? text file with
    | some e => .error e
    | none => .ok m

end Manifest

/-- The configuration with another import path. -/
def Config.replaceImportPath (c : Config) (path : String) : Except InputError Config :=
  match c.withImportPath path with
  | .error fault => .error (.invalidImportPath fault)
  | .ok c => .ok c

end SdkLayout
