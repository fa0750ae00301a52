import BuildOperator.Build.Progress
import BuildOperator.Pass.Handler
import BuildOperator.Workflow.Context
/-!
# Reconciler

The passes of the operator over one build: it keeps the objects of the workflows as they should be,
records the events of the pipeline, and publishes and deploys the artifact of a completed build. A
change of the status counts only once it is written to the cluster.
-/
namespace BuildOperator

/-- How long after a successful pass the operator comes back to a build, in seconds. -/
def resyncSeconds : Nat := 300

structure Reconciler (Q : Type) (A : Q → Type) where
  settings : Settings
  handlers : WorkflowContext → List (Handler Q A)
  /-- Make the deployable artifact of a build; the answer is its name. -/
  publish : Build → Task Q A String
  /-- Deploy the artifact of that name. -/
  deploy : Build → String → Task Q A Unit
  /-- Write the status of the build of that namespace and name. -/
  patchStatus : String → String → BuildStatus → Task Q A Unit

namespace Reconciler
variable {Q : Type} {A : Q → Type}

/-- Bring the objects of the workflows to their desired state. -/
def reconcileResources (r : Reconciler Q A) (b : Build) : Attempt Q A (List Applied) :=
  Handler.applyAll (r.handlers ⟨b, r.settings⟩)

/-- Write the status of a build to the cluster. -/
def persistStatus (r : Reconciler Q A) (b : Build) : Attempt Q A Unit :=
  match b.metadata.space with
  | none => throw (.missingNamespace "Build" b.displayName)
  | some space =>
    match b.status with
    | none => return ()
    | some status =>
      (r.patchStatus space b.displayName status).race ("patch status of build " ++ b.displayName)

/-- Record an event of the pipeline and write the status. The build stays as it was if that
fails. -/
def recordEvent (r : Reconciler Q A) (b : Build) (event : PipelineEvent) :
    Pass Q A (Build × Except Failure Transition) := do
  let now ← Pass.now
  let later ← Pass.now
  match b.recordEvent event now later with
  | (next, .recorded) =>
    match ← (r.persistStatus next).run with
    | .ok () => return (next, .ok .recorded)
    | .error failure => return (b, .error failure)
  | (next, .skipped reason) => return (next, .ok (.skipped reason))

/-- Deploy an artifact and record the outcome. A deployment that fails is an outcome; one that is
cancelled is none. -/
def deployArtifact (r : Reconciler Q A) (b : Build) (artifact : String) : Attempt Q A Build := do
  match ← Attempt.result ((r.deploy b artifact).race "apply deployment") with
  | .error (.cancelled operation) => throw (.cancelled operation)
  | result =>
    let now ← Attempt.now
    return (b.recordDeployment result.isOk now).1

/-- Publish the artifact of a build, deploy it where the build asks for that, and write the
status. -/
def publishAndDeploy (r : Reconciler Q A) (b : Build) : Attempt Q A Build := do
  let artifact ← (r.publish b).race "create deployable artifact"
  let now ← Attempt.now
  let b := (b.recordArtifact now).1
  let b ← if b.spec.autoDeploy then r.deployArtifact b artifact else pure b
  r.persistStatus b
  return b

/-- Publish the artifact of a completed build that has none yet. The build stays as it was if that
fails. -/
def publishArtifact (r : Reconciler Q A) (b : Build) :
    Pass Q A (Build × Except Failure Transition) := do
  if b.artifactPending then
    match ← (r.publishAndDeploy b).run with
    | .ok next => return (next, .ok .recorded)
    | .error failure => return (b, .error failure)
  else return (b, .ok (.skipped .notCompleted))

/-- One pass over a build. -/
def reconcile (r : Reconciler Q A) (b : Build) : Attempt Q A Action := do
  let _ ← r.reconcileResources b
  if b.artifactPending then
    let (_, result) ← ExceptT.lift (r.publishArtifact b)
    let _ ← Attempt.ofResult result
  return .requeue resyncSeconds

end Reconciler
end BuildOperator
