import SdkLayout.Text.LetterCase

/-!
# Modes

How much of an SDK is generated: the types alone, the types and the request types of endpoints, or
all of it, clients included.
-/

namespace SdkLayout

/-- How much of an SDK is generated. -/
inductive Mode where
  | model
  | fiber
  | client
  deriving DecidableEq, Repr

namespace Mode

/-- The name of a mode. -/
def name : Mode → String
  | .model => "model"
  | .fiber => "fiber"
  | .client => "client"

/-- Whether request types are placed. -/
def placesRequests : Mode → Bool
  | .model => false
  | _ => true

theorem placesRequests_iff {m : Mode} : m.placesRequests = true ↔ m ≠ .model := by
  cases m <;> simp [placesRequests]

/-- Whether clients and what belongs to them are placed. -/
def placesClient : Mode → Bool
  | .client => true
  | _ => false

theorem placesClient_iff {m : Mode} : m.placesClient = true ↔ m = .client := by
  cases m <;> simp [placesClient]

/-- The mode with exactly this name. -/
def ofName? (s : String) : Option Mode :=
  if s = "model" then some .model
  else if s = "fiber" then some .fiber
  else if s = "client" then some .client
  else none

@[simp] theorem ofName?_name (m : Mode) : ofName? m.name = some m := by
  cases m <;> rfl

/-- Reads a mode in any letter case. What is no mode is explained. -/
def parse (s : String) : Except String Mode :=
  match ofName? (lowercase s) with
  | some m => .ok m
  | none => .error ("unknown mode '" ++ s ++ "', expected 'model', 'fiber' or 'client'")

end Mode

end SdkLayout
