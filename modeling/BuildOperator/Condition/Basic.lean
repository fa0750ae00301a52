import BuildOperator.Timestamp.Basic
/-!
# Conditions

A condition records one checkpoint of a build's pipeline: whether it holds, why, for which
generation of the build, and since when. Conditions are kept in a list, by type. A list may also
hold types that are not in the vocabulary below.
-/
namespace BuildOperator

/-- The checkpoints of a pipeline. -/
inductive ConditionType where
  | initialized
  | cloneSucceeded
  | buildSucceeded
  | pushSucceeded
  | completed
  | deployableArtifactCreated
  | deploymentApplied
  deriving DecidableEq, Repr

namespace ConditionType

/-- Every condition type, in pipeline order. -/
def all : List ConditionType :=
  [.initialized, .cloneSucceeded, .buildSucceeded, .pushSucceeded, .completed,
    .deployableArtifactCreated, .deploymentApplied]

def name : ConditionType → String
  | .initialized => "Initialized"
  | .cloneSucceeded => "CloneSucceeded"
  | .buildSucceeded => "BuildSucceeded"
  | .pushSucceeded => "PushSucceeded"
  | .completed => "Completed"
  | .deployableArtifactCreated => "DeployableArtifactCreated"
  | .deploymentApplied => "DeploymentApplied"

theorem name_injective {s t : ConditionType} (h : s.name = t.name) : s = t := by
  cases s <;> cases t <;> simp_all [name]

@[simp] theorem name_inj {s t : ConditionType} : s.name = t.name ↔ s = t :=
  ⟨name_injective, fun h => h ▸ rfl⟩

end ConditionType

/-- Why a condition has its status. -/
inductive ConditionReason where
  | workflowCreated
  | cloneSucceeded
  | cloneFailed
  | buildSucceeded
  | buildFailed
  | pushSucceeded
  | pushFailed
  | workflowCompleted
  | workflowFailed
  | artifactCreated
  | autoDeploymentFailed
  | autoDeploymentApplied
  deriving DecidableEq, Repr

def ConditionReason.name : ConditionReason → String
  | .workflowCreated => "WorkflowCreated"
  | .cloneSucceeded => "CloneSourceCodeSucceeded"
  | .cloneFailed => "CloneSourceCodeFailed"
  | .buildSucceeded => "BuildImageSucceeded"
  | .buildFailed => "BuildImageFailed"
  | .pushSucceeded => "PushImageSucceeded"
  | .pushFailed => "PushImageFailed"
  | .workflowCompleted => "BuildCompleted"
  | .workflowFailed => "BuildFailed"
  | .artifactCreated => "ArtifactCreationSuccessful"
  | .autoDeploymentFailed => "DeploymentFailed"
  | .autoDeploymentApplied => "DeploymentAppliedSuccessfully"

inductive ConditionStatus where
  | holds
  | fails
  | unknown
  deriving DecidableEq, Repr

instance : Inhabited ConditionStatus := ⟨.unknown⟩

namespace ConditionStatus

def all : List ConditionStatus := [.holds, .fails, .unknown]

def name : ConditionStatus → String
  | .holds => "True"
  | .fails => "False"
  | .unknown => "Unknown"

end ConditionStatus

structure Condition where
  type : String
  status : ConditionStatus
  reason : String
  message : String
  observedGeneration : Int64
  lastTransitionTime : Timestamp
  deriving DecidableEq

/-- What is to be recorded for a condition type. -/
structure Finding where
  type : ConditionType
  status : ConditionStatus
  reason : ConditionReason
  message : String
  generation : Int64
  deriving DecidableEq

/-- A new condition that records a finding. -/
def Finding.toCondition (f : Finding) (now : Timestamp) : Condition where
  type := f.type.name
  status := f.status
  reason := f.reason.name
  message := f.message
  observedGeneration := f.generation
  lastTransitionTime := now

/-- A condition after a finding of its type. Its time changes only together with its status. -/
def Condition.revise (c : Condition) (f : Finding) (now : Timestamp) : Condition where
  type := c.type
  status := f.status
  reason := f.reason.name
  message := f.message
  observedGeneration := f.generation
  lastTransitionTime := if c.status = f.status then c.lastTransitionTime else now

abbrev Conditions := List Condition

namespace Conditions

/-- The first condition of that type. -/
def find? (cs : Conditions) (type : ConditionType) : Option Condition :=
  List.find? (fun c => c.type = type.name) cs

def statusOf? (cs : Conditions) (type : ConditionType) : Option ConditionStatus :=
  (find? cs type).map Condition.status

def isTrue (cs : Conditions) (type : ConditionType) : Bool := statusOf? cs type = some .holds

/-- Record a finding: the first condition of its type is revised, and a new condition is added at
the end where there is none. Also whether the status changed or is new. -/
def record (cs : Conditions) (f : Finding) (now : Timestamp) : Conditions × Bool :=
  match cs with
  | [] => ([f.toCondition now], true)
  | c :: rest =>
    if c.type = f.type.name then (c.revise f now :: rest, c.status ≠ f.status)
    else
      let (rest, changed) := record rest f now
      (c :: rest, changed)

end Conditions
end BuildOperator
