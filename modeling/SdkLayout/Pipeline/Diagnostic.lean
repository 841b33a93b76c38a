import SdkLayout.Json.Value

/-!
# Diagnostics

What planning has to say about an API without ending over it.
-/

namespace SdkLayout

/-- How much a diagnostic matters, the most severe first. -/
inductive Severity where
  /-- No layout can be planned. -/
  | error
  /-- The layout is valid, but probably not what was expected. -/
  | warning
  /-- Something was corrected. -/
  | info
  deriving DecidableEq, Repr

namespace Severity

/-- The name of a severity. -/
def name : Severity → String
  | .error => "error"
  | .warning => "warning"
  | .info => "info"

/-- The place of a severity in the order from most to least severe. -/
def rank : Severity → Nat
  | .error => 0
  | .warning => 1
  | .info => 2

/-- The severity with a name. -/
def ofName? (s : String) : Option Severity :=
  if s = "error" then some .error
  else if s = "warning" then some .warning
  else if s = "info" then some .info
  else none

end Severity

/-- A message from a phase of planning. -/
structure Diagnostic where
  severity : Severity
  phase : String
  message : String
  /-- The declaration that the message is about. -/
  location : Option String
  deriving DecidableEq, Repr

namespace Diagnostic

/-- Whether a diagnostic is an error. -/
def isError (d : Diagnostic) : Bool :=
  decide (d.severity = .error)

/-- Whether a diagnostic is a warning. -/
def isWarning (d : Diagnostic) : Bool :=
  decide (d.severity = .warning)

/-- How a diagnostic is written on one line. -/
def display (d : Diagnostic) : String :=
  d.severity.name ++ "[" ++ d.phase ++ "]: " ++ d.message
    ++ (match d.location with
        | none => ""
        | some l => " (at " ++ l ++ ")")

/-- The order of diagnostics by severity. -/
def le (a b : Diagnostic) : Bool :=
  decide (a.severity.rank ≤ b.severity.rank)

/-- The JSON form of a diagnostic. -/
def toJson (d : Diagnostic) : Json :=
  .object (Json.member "severity" (.string d.severity.name)
    ++ Json.member "phase" (.string d.phase)
    ++ Json.member "message" (.string d.message)
    ++ Json.optionalMember "location" (d.location.map .string))

end Diagnostic

end SdkLayout
