import BuildOperator.Deployment
import BuildOperator.Failure
import BuildOperator.Workflow.Context
/-!
# Deployment of a build

The deployment of a component refers to the artifact of its latest build. It lives in the
namespace of the build.
-/
namespace BuildOperator

/-- The deployment of an artifact that was made for the build. -/
def Build.deployment (b : Build) (artifact : String) : Except Failure Deployment :=
  match b.metadata.space with
  | none => .error (.missingNamespace "Build" b.displayName)
  | some space => .ok {
      metadata := {
        name := some b.spec.component
        space := some space
        labels := some b.labels }
      spec := {
        revisionHistoryLimit := some DeploymentSpec.defaultHistoryLimit
        deploymentArtifactRef := artifact } }

end BuildOperator
