import BuildOperator.Deployment
import BuildOperator.Resource.Schema
/-!
# Resource definitions

The two resources that the operator brings to the cluster, builds and deployments, as they are
announced to it: their names, their schemas, and the columns of their listings.
-/
namespace BuildOperator

/-- A column of the listing of a resource. -/
structure ListColumn where
  name : String
  type : String
  path : String

def ListColumn.toJson (c : ListColumn) : Json :=
  .object [("jsonPath", .string c.path), ("name", .string c.name), ("type", .string c.type)]

structure ResourceDefinition where
  kind : String
  singular : String
  plural : String
  description : String
  columns : List ListColumn := []
  spec : Schema
  /-- The schema of a status that is written apart from the rest, if there is one. -/
  status : Option Schema := none

namespace ResourceDefinition

def group : String := "keel.dev"

def version : String := "v1alpha1"

def names (d : ResourceDefinition) : Json :=
  .object [
    ("categories", .array []),
    ("kind", .string d.kind),
    ("plural", .string d.plural),
    ("shortNames", .array []),
    ("singular", .string d.singular)]

def schema (d : ResourceDefinition) : Json :=
  let properties := ("spec", d.spec) :: d.status.toList.map (("status", ·))
  .object (("title", .string d.kind) ::
    (Schema.described d.description (.object ["spec"] properties)).members)

def versionEntry (d : ResourceDefinition) : Json :=
  .object [
    ("additionalPrinterColumns", .array (d.columns.map ListColumn.toJson)),
    ("name", .string version),
    ("schema", .object [("openAPIV3Schema", d.schema)]),
    ("served", .bool true),
    ("storage", .bool true),
    ("subresources", .object (if d.status.isSome then [("status", .object [])] else []))]

def toJson (d : ResourceDefinition) : Json :=
  Json.canonical <| .object [
    ("apiVersion", .string "apiextensions.k8s.io/v1"),
    ("kind", .string "CustomResourceDefinition"),
    ("metadata", .object [("name", .string (d.plural ++ "." ++ group))]),
    ("spec", .object [
      ("group", .string group),
      ("names", d.names),
      ("scope", .string "Namespaced"),
      ("versions", .array [d.versionEntry])])]

end ResourceDefinition

def BuildSpec.schema : Schema :=
  .described "Specification for a Build" <| .object ["component", "project"] [
    ("autoDeploy", .orElse (.bool false) <|
      .described "Apply a Deployment automatically once the artifact exists" .boolean),
    ("component", .described "Component being built" .string),
    ("project", .described "Project the built component belongs to" .string),
    ("revision", .nullable <|
      .described "Source revision to build (branch, tag or commit)" .string)]

def Condition.schema : Schema :=
  .described
    ("Kubernetes-style condition recording one pipeline checkpoint\n\n" ++
      "`type_` is kept as a plain string on the wire so records written by a newer controller " ++
      "still deserialize; the typed vocabulary lives in " ++
      "[`crate::conditions::ConditionType`].") <|
  .object ["lastTransitionTime", "message", "reason", "status", "type"] [
    ("lastTransitionTime", .described "Last time the condition's status changed" .dateTime),
    ("message", .described "Human-readable message" .string),
    ("observedGeneration", .orElse (.ofInt 0) <|
      .described "Generation of the entity when this condition was last written" .int64),
    ("reason", .described "Machine-readable reason for the condition" .string),
    ("status", .described "Status of the condition (True, False, Unknown)" <|
      .oneOf (ConditionStatus.all.map ConditionStatus.name)),
    ("type", .described "Type of condition (e.g., Initialized, Completed)" .string)]

def ImageStatus.schema : Schema :=
  .described "Image produced by the pipeline once known" <| .object [] [
    ("image",
      .described "Fully qualified image reference (e.g., `registry/app:sha123`)" .string)]

def BuildStatus.schema : Schema :=
  .nullable <| .described "Status for a Build" <| .object [] [
    ("conditions", .described "Pipeline conditions, at most one per type" <|
      .array Condition.schema),
    ("imageStatus", .orElse (.object []) ImageStatus.schema)]

def DeploymentSpec.schema : Schema :=
  .described "Specification for a Deployment" <| .object ["deploymentArtifactRef"] [
    ("deploymentArtifactRef",
      .described "Reference to the deployable artifact being deployed" .string),
    ("revisionHistoryLimit", .nullable <|
      .described "Number of deployment revisions to keep for rollback" .int32)]

def Build.definition : ResourceDefinition where
  kind := "Build"
  singular := "build"
  plural := "builds"
  description := "Auto-generated derived type for BuildSpec via `CustomResource`"
  columns := [
    ⟨"Image", "string", ".status.imageStatus.image"⟩,
    ⟨"Age", "date", ".metadata.creationTimestamp"⟩]
  spec := BuildSpec.schema
  status := some BuildStatus.schema

def Deployment.definition : ResourceDefinition where
  kind := "Deployment"
  singular := "deployment"
  plural := "deployments"
  description := "Auto-generated derived type for DeploymentSpec via `CustomResource`"
  spec := DeploymentSpec.schema

end BuildOperator
