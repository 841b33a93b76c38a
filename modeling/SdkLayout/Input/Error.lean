import SdkLayout.Api.Integrity
import SdkLayout.Config
import SdkLayout.Input.Span

/-!
# Errors of the input

What can be wrong with the files that a run reads: the manifest, and the API definition. Every
error has a message; some have a code to look them up by, or advice.
-/

namespace SdkLayout

/-- What is wrong with an input file. -/
inductive InputError where
  | unreadable (path : String)
  /-- The manifest is no TOML, or its settings are of other types. -/
  | malformedManifest
  /-- The definition is no JSON, or of another form. It is explained where there is more to say. -/
  | malformedApi (explanation : Option String)
  | inconsistentApi (path : String) (cause : IntegrityError)
  /-- A setting of a manifest has a value that it must not have. -/
  | invalidSetting (setting reason : String) (file : String) (span : Option Span)
  /-- The import path that was given in place of that of the manifest is none. -/
  | invalidImportPath (fault : ImportPathFault)
  deriving DecidableEq, Repr

namespace InputError

/-- The wording of an error. -/
def message : InputError → String
  | .unreadable path => "failed to read '" ++ path ++ "'"
  | .malformedManifest => "failed to parse placer.toml"
  | .malformedApi _ => "failed to parse IR snapshot"
  | .inconsistentApi path _ => "IR snapshot '" ++ path ++ "' is structurally inconsistent"
  | .invalidSetting setting reason _ _ => "invalid '" ++ setting ++ "': " ++ reason
  | .invalidImportPath fault => "invalid import path: " ++ fault.reason

/-- The code of an error. -/
def code? : InputError → Option String
  | .unreadable _ => none
  | .malformedManifest => some "placer::parse_error"
  | .malformedApi _ => some "placer::ir_parse_error"
  | .inconsistentApi _ _ => some "placer::invalid_ir"
  | .invalidSetting _ _ _ _ | .invalidImportPath _ => some "placer::validation_error"

/-- What to do about an error. -/
def help? : InputError → Option String
  | .unreadable _ => some "check the path, or pass --config / --ir explicitly"
  | .inconsistentApi _ _ => some "the IR was likely produced by an incompatible generator version"
  | _ => none

/-- The source that an invalid value comes from: a file, or the option that replaces the import
path. -/
def source? : InputError → Option String
  | .invalidSetting _ _ file _ => some file
  | .invalidImportPath _ => some "--import-path"
  | _ => none

/-- Where an invalid value stands in its source. -/
def span? : InputError → Option Span
  | .invalidSetting _ _ _ span => span
  | _ => none

end InputError

/-- The name of a setting: its key after the tables around it, with dots between them. -/
def settingName (tables : List String) (key : String) : String :=
  ".".intercalate (tables ++ [key])

/-- The complaint about a setting in the text of a manifest. -/
def InputError.ofSetting (text file : String) (tables : List String) (key reason : String) :
    InputError :=
  .invalidSetting (settingName tables key) reason file (Span.ofValue? text key)

end SdkLayout
