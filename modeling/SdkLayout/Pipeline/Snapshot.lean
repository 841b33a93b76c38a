import SdkLayout.Pipeline.Context

/-!
# Snapshots

The results of planning after one phase, written as JSON for inspection. Results that are not known
yet are left out.
-/

namespace SdkLayout

/-- The JSON form of a relocation. -/
def Relocation.toJson (r : Relocation) : Json :=
  .object [("type_id", r.type.toJson), ("from", r.origin.toJson), ("to", r.destination.toJson),
    ("cycle", Json.strings r.cycle)]

/-- The JSON form of a cycle report. -/
def CycleReport.toJson (r : CycleReport) : Json :=
  .object [("relocations", .array (r.relocations.map Relocation.toJson)),
    ("rounds", .natural r.rounds)]

/-- The JSON form of a registry. -/
def Registry.toJson (r : Registry) : Json :=
  .object [("names", Json.strings r.names), ("packages", Json.strings r.packages)]

/-- The JSON form of a subpackage in normal form. -/
def NormalSubpackage.toJson (p : NormalSubpackage) : Json :=
  .object [("subpackage", p.subpackage.toJson), ("originalPath", p.declaredPath.toJson),
    ("demoted", .bool p.demoted)]

/-- The JSON form of a package tree in normal form. -/
def NormalTree.toJson (t : NormalTree) : Json :=
  .object [("subpackages", t.subpackages.toJson NormalSubpackage.toJson),
    ("servicePaths", t.servicePaths.toJson DeclarationPath.toJson)]

/-- The JSON form of what is known after a phase. -/
def Context.snapshot (phase : String) (c : Context) : Json :=
  .object (Json.member "phase" (.string phase)
    ++ Json.optionalMember "corrected" (c.corrected.map Api.toJson)
    ++ Json.optionalMember "cycles" (c.cycles.map CycleReport.toJson)
    ++ Json.optionalMember "registry" (c.registry.map Registry.toJson)
    ++ Json.optionalMember "subpackages" (c.tree.map NormalTree.toJson)
    ++ Json.optionalMember "plan" (c.plan.map Plan.toJson)
    ++ Json.member "diagnostics" (.array (c.diagnostics.map Diagnostic.toJson)))

end SdkLayout
