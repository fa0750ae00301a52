import BuildOperator.Build.Json
/-!
# Deployments

A deployment refers to the deployable artifact of a component. Each component has one.
-/
namespace BuildOperator

structure DeploymentSpec where
  revisionHistoryLimit : Option Int32 := none
  deploymentArtifactRef : String
  deriving DecidableEq

/-- A deployment, which may carry metadata of any type. -/
structure Deployment (μ : Type := Metadata) where
  metadata : μ
  spec : DeploymentSpec
  deriving DecidableEq

namespace DeploymentSpec

/-- How many revisions are kept where no limit is given. -/
def defaultHistoryLimit : Int32 := 10

def historyLimit (s : DeploymentSpec) : Int32 := s.revisionHistoryLimit.getD defaultHistoryLimit

def toJson (s : DeploymentSpec) : Json :=
  .record [
    Json.field "deploymentArtifactRef" (.string s.deploymentArtifactRef),
    Json.field? "revisionHistoryLimit" (fun n => .ofInt n.toInt) s.revisionHistoryLimit]

def shape : Decode.Shape := ⟨"DeploymentSpec", 2⟩

def ofMembers (o : List (String × Json)) : Except DecodeError DeploymentSpec := do
  let artifact ← Decode.present o "deploymentArtifactRef" Decode.string
  let limit ← Decode.nullable o "revisionHistoryLimit" Decode.int32
  let artifact ← Decode.required "deploymentArtifactRef" artifact
  return ⟨limit, artifact⟩

def ofItems (items : List Json) : Except DecodeError DeploymentSpec := do
  let limit ← Decode.itemOr none items 0 (Decode.optional Decode.int32)
  let artifact ← Decode.item shape items 1 Decode.string
  return ⟨limit, artifact⟩

def outline : Json.Outline := .flat true ["revisionHistoryLimit", "deploymentArtifactRef"]

def ofJson : Decoder DeploymentSpec := Decode.struct shape ofMembers ofItems

end DeploymentSpec

namespace Deployment
variable {μ : Type} [MetadataFormat μ]

def toJson (d : Deployment μ) : Json :=
  .record [
    Json.field "apiVersion" (.string apiVersion),
    Json.field "kind" (.string "Deployment"),
    Json.field "metadata" (MetadataFormat.toJson d.metadata),
    Json.field "spec" d.spec.toJson]

def shape : Decode.Shape := ⟨"Deployment", 2⟩

def ofMembers (o : List (String × Json)) : Except DecodeError (Deployment μ) := do
  let metadata ← Decode.present o "metadata" MetadataFormat.ofJson
  let spec ← Decode.present o "spec" DeploymentSpec.ofJson
  let metadata ← Decode.required "metadata" metadata
  let spec ← Decode.required "spec" spec
  return ⟨metadata, spec⟩

def ofItems (items : List Json) : Except DecodeError (Deployment μ) := do
  let metadata ← Decode.item shape items 0 MetadataFormat.ofJson
  let spec ← Decode.item shape items 1 DeploymentSpec.ofJson
  return ⟨metadata, spec⟩

/-- What is read of a deployment. -/
def outline (μ : Type := Metadata) [MetadataFormat μ] : Json.Outline :=
  .record true [("metadata", MetadataFormat.outline μ), ("spec", DeploymentSpec.outline)]

def ofJson : Decoder (Deployment μ) := Decode.struct shape ofMembers ofItems

end Deployment
end BuildOperator
