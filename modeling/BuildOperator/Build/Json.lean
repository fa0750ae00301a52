import BuildOperator.Build.Basic
import BuildOperator.Condition.Json
/-!
# Builds in JSON

Fields that are empty and may be left out are not written, and a missing one is read as empty.
-/
namespace BuildOperator

/-- The version of the cluster's interface that builds and deployments belong to. -/
def apiVersion : String := "keel.dev/v1alpha1"

namespace BuildSpec

def toJson (s : BuildSpec) : Json :=
  .record [
    Json.field "autoDeploy" (.bool s.autoDeploy),
    Json.field "component" (.string s.component),
    Json.field "project" (.string s.project),
    Json.field? "revision" .string s.revision]

def shape : Decode.Shape := ⟨"BuildSpec", 4⟩

def ofMembers (o : List (String × Json)) : Except DecodeError BuildSpec := do
  let autoDeploy ← Decode.present o "autoDeploy" Decode.bool
  let component ← Decode.present o "component" Decode.string
  let project ← Decode.present o "project" Decode.string
  let revision ← Decode.nullable o "revision" Decode.string
  let project ← Decode.required "project" project
  let component ← Decode.required "component" component
  return ⟨project, component, revision, autoDeploy.getD false⟩

def ofItems (items : List Json) : Except DecodeError BuildSpec := do
  let project ← Decode.item shape items 0 Decode.string
  let component ← Decode.item shape items 1 Decode.string
  let revision ← Decode.itemOr none items 2 (Decode.optional Decode.string)
  let autoDeploy ← Decode.itemOr false items 3 Decode.bool
  return ⟨project, component, revision, autoDeploy⟩

def outline : Json.Outline := .flat true ["project", "component", "revision", "autoDeploy"]

def ofJson : Decoder BuildSpec := Decode.struct shape ofMembers ofItems

end BuildSpec

namespace ImageStatus

def toJson (s : ImageStatus) : Json :=
  .record [Json.field? "image" .string (if s.image = "" then none else some s.image)]

def shape : Decode.Shape := ⟨"ImageStatus", 1⟩

def ofMembers (o : List (String × Json)) : Except DecodeError ImageStatus := do
  let image ← Decode.present o "image" Decode.string
  return ⟨image.getD ""⟩

def ofItems (items : List Json) : Except DecodeError ImageStatus := do
  let image ← Decode.itemOr "" items 0 Decode.string
  return ⟨image⟩

def outline : Json.Outline := .flat true ["image"]

def ofJson : Decoder ImageStatus := Decode.struct shape ofMembers ofItems

end ImageStatus

namespace Conditions

def toJson (cs : Conditions) : Json := .array (cs.map Condition.toJson)

def ofJson : Decoder Conditions := Decode.list Condition.ofJson

end Conditions

namespace BuildStatus

def toJson (s : BuildStatus) : Json :=
  .record [
    Json.field? "conditions" Conditions.toJson
      (if s.conditions.isEmpty then none else some s.conditions),
    Json.field "imageStatus" s.imageStatus.toJson]

def shape : Decode.Shape := ⟨"BuildStatus", 2⟩

def ofMembers (o : List (String × Json)) : Except DecodeError BuildStatus := do
  let conditions ← Decode.present o "conditions" Conditions.ofJson
  let imageStatus ← Decode.present o "imageStatus" ImageStatus.ofJson
  return ⟨conditions.getD [], imageStatus.getD {}⟩

def ofItems (items : List Json) : Except DecodeError BuildStatus := do
  let conditions ← Decode.itemOr [] items 0 Conditions.ofJson
  let imageStatus ← Decode.itemOr {} items 1 ImageStatus.ofJson
  return ⟨conditions, imageStatus⟩

def outline : Json.Outline :=
  .record true [("conditions", .items Condition.outline), ("imageStatus", ImageStatus.outline)]

def ofJson : Decoder BuildStatus := Decode.struct shape ofMembers ofItems

end BuildStatus

namespace Build
variable {μ : Type} [MetadataFormat μ]

def toJson (b : Build μ) : Json :=
  .record [
    Json.field "apiVersion" (.string apiVersion),
    Json.field "kind" (.string "Build"),
    Json.field "metadata" (MetadataFormat.toJson b.metadata),
    Json.field "spec" b.spec.toJson,
    Json.field? "status" BuildStatus.toJson b.status]

def shape : Decode.Shape := ⟨"Build", 3⟩

def ofMembers (o : List (String × Json)) : Except DecodeError (Build μ) := do
  let metadata ← Decode.present o "metadata" MetadataFormat.ofJson
  let spec ← Decode.present o "spec" BuildSpec.ofJson
  let status ← Decode.nullable o "status" BuildStatus.ofJson
  let metadata ← Decode.required "metadata" metadata
  let spec ← Decode.required "spec" spec
  return ⟨metadata, spec, status⟩

def ofItems (items : List Json) : Except DecodeError (Build μ) := do
  let metadata ← Decode.item shape items 0 MetadataFormat.ofJson
  let spec ← Decode.item shape items 1 BuildSpec.ofJson
  let status ← Decode.item shape items 2 (Decode.optional BuildStatus.ofJson)
  return ⟨metadata, spec, status⟩

/-- What is read of a build. -/
def outline (μ : Type := Metadata) [MetadataFormat μ] : Json.Outline :=
  .record true [
    ("metadata", MetadataFormat.outline μ), ("spec", BuildSpec.outline),
    ("status", BuildStatus.outline)]

def ofJson : Decoder (Build μ) := Decode.struct shape ofMembers ofItems

end Build
end BuildOperator
