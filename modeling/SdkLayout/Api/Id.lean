/-!
# Identifiers

Every table of an API definition is keyed by identifiers of its own kind. The kind is an index of
the type, so that an identifier of one table cannot be looked up in another, while whatever holds
for identifiers is said once.
-/

namespace SdkLayout

/-- What an identifier stands for. -/
inductive IdKind where
  | type
  | error
  | service
  | subpackage
  | environment

/-- An identifier of the given kind. -/
structure Id (kind : IdKind) where
  text : String
  deriving DecidableEq, Repr

/-- Identifies a type declaration. -/
abbrev TypeId := Id .type

/-- Identifies an error declaration. -/
abbrev ErrorId := Id .error

/-- Identifies a service. -/
abbrev ServiceId := Id .service

/-- Identifies a subpackage. -/
abbrev SubpackageId := Id .subpackage

/-- Identifies an environment. -/
abbrev EnvironmentId := Id .environment

namespace Id

variable {kind : IdKind}

/-- The order of identifiers: that of their texts. -/
def le (a b : Id kind) : Bool :=
  decide (a.text ≤ b.text)

theorem le_iff (a b : Id kind) : le a b = true ↔ a.text ≤ b.text := by
  rw [le, decide_eq_true_eq]

theorem ext_iff {a b : Id kind} : a = b ↔ a.text = b.text :=
  ⟨fun h => h ▸ rfl, fun h => by cases a; cases b; cases h; rfl⟩

end Id

end SdkLayout
