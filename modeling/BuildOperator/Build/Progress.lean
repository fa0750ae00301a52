import BuildOperator.Build.Basic
import BuildOperator.Pipeline
/-!
# Progress of a build

How the events of a pipeline change the conditions of a build. Every condition is recorded for the
generation of the build, and only conditions of that generation count. Once `Completed` is true or
false for a generation, later events of steps and of completion are skipped; an artifact follows
only a completed pipeline, and a deployment only an artifact.
-/
namespace BuildOperator

/-- Why an event was not recorded. -/
inductive SkipReason where
  | pipelineFailed
  | alreadyCompleted
  | notCompleted
  | noArtifact
  deriving DecidableEq, Repr

inductive Transition where
  | recorded
  | skipped (reason : SkipReason)
  deriving DecidableEq, Repr

namespace Remark

def initialized : Remark := ⟨.workflowCreated, "Workflow was created in the cluster."⟩

def completed : Remark := ⟨.workflowCompleted, "Build completed successfully."⟩

def stepFailed : Remark := ⟨.workflowFailed, "Build completed with a failure status"⟩

def imageMissing : Remark := ⟨.workflowFailed, "Image name is not found in the workflow"⟩

def artifactCreated : Remark :=
  ⟨.artifactCreated, "Successfully created a deployable artifact for the build."⟩

def deployed : Remark := ⟨.autoDeploymentApplied, "Successfully configured the deployment."⟩

def notDeployed : Remark := ⟨.autoDeploymentFailed, "Deployment configuration failed."⟩

end Remark

namespace Build

/-- Whether the first condition of that type has that status for the generation of the build. -/
def holds (b : Build) (type : ConditionType) (status : ConditionStatus) : Bool :=
  match b.conditions.find? type with
  | some c => c.status = status ∧ c.observedGeneration = b.generation
  | none => false

def isCompleted (b : Build) : Bool := b.holds .completed .holds

def hasFailed (b : Build) : Bool := b.holds .completed .fails

/-- Whether a completed build still lacks its deployable artifact. -/
def artifactPending (b : Build) : Bool :=
  b.isCompleted && !b.holds .deployableArtifactCreated .holds

/-- Why events of steps and of completion no longer count, if they do not. -/
def finished? (b : Build) : Option SkipReason :=
  if b.hasFailed then some .pipelineFailed
  else if b.isCompleted then some .alreadyCompleted
  else none

/-- Record a condition for the generation of the build. -/
def record (b : Build) (type : ConditionType) (status : ConditionStatus) (remark : Remark)
    (now : Timestamp) : Build :=
  let finding : Finding := ⟨type, status, remark.reason, remark.message, b.generation⟩
  b.modifyStatus fun s => { s with conditions := (s.conditions.record finding now).1 }

def recordImage (b : Build) (image : String) : Build :=
  b.modifyStatus fun s => { s with imageStatus := ⟨image⟩ }

/-- Make a change, unless the pipeline has finished. -/
def unlessFinished (b : Build) (change : Build) : Build × Transition :=
  match b.finished? with
  | some reason => (b, .skipped reason)
  | none => (change, .recorded)

def recordInitialized (b : Build) (now : Timestamp) : Build × Transition :=
  (b.record .initialized .holds .initialized now, .recorded)

def recordStepSucceeded (b : Build) (step : Step) (now : Timestamp) : Build × Transition :=
  b.unlessFinished (b.record step.conditionType .holds step.success now)

/-- A failed step fails the completion with it. The clock is read for each of the two conditions. -/
def recordStepFailed (b : Build) (step : Step) (now : Timestamp) (later : Timestamp := now) :
    Build × Transition :=
  b.unlessFinished <|
    (b.record step.conditionType .fails step.failure now).record .completed .fails .stepFailed later

/-- A pipeline that succeeds without an image counts as failed. -/
def recordSucceeded (b : Build) (output : PipelineOutput) (now : Timestamp) : Build × Transition :=
  b.unlessFinished <|
    match output.image? with
    | some image => (b.recordImage image).record .completed .holds .completed now
    | none => b.record .completed .fails .imageMissing now

def recordArtifact (b : Build) (now : Timestamp) : Build × Transition :=
  if b.isCompleted then
    (b.record .deployableArtifactCreated .holds .artifactCreated now, .recorded)
  else (b, .skipped .notCompleted)

def recordDeployment (b : Build) (succeeded : Bool) (now : Timestamp) : Build × Transition :=
  if b.holds .deployableArtifactCreated .holds then
    let b :=
      if succeeded then b.record .deploymentApplied .holds .deployed now
      else b.record .deploymentApplied .fails .notDeployed now
    (b, .recorded)
  else (b, .skipped .noArtifact)

/-- Record an event of the pipeline, which reads the clock twice at most. -/
def recordEvent (b : Build) (event : PipelineEvent) (now : Timestamp) (later : Timestamp := now) :
    Build × Transition :=
  match event with
  | .accepted => b.recordInitialized now
  | .stepSucceeded step => b.recordStepSucceeded step now
  | .stepFailed step => b.recordStepFailed step now later
  | .succeeded output => b.recordSucceeded output now

end Build
end BuildOperator
