import BuildOperator.Reconciler
import BuildOperator.Workflow.Deployment
import BuildOperator.Workflow.Handlers
/-!
# Calls of the operator

The calls that the passes of the operator make: to the cluster, to the publisher of artifacts, and
to what applies deployments.
-/
namespace BuildOperator

inductive ClusterCall where
  | get (key : ObjectKey)
  | create (object : ManagedObject)
  | update (object : ManagedObject)
  | delete (key : ObjectKey)
  | patchStatus (space name : String) (status : BuildStatus)
  deriving DecidableEq

/-- What the cluster answers: the object that was looked up, if there is one, and nothing to a
write. -/
abbrev ClusterCall.Answer : ClusterCall → Type
  | .get _ => Option ManagedObject
  | .create _ | .update _ | .delete _ | .patchStatus .. => Unit

inductive Call where
  | cluster (call : ClusterCall)
  | publish (build : Build)
  | deploy (build : Build) (artifact : String)
  deriving DecidableEq

abbrev Call.Answer : Call → Type
  | .cluster call => call.Answer
  | .publish _ => String
  | .deploy .. => Unit

/-- The kind of the object that a call is about. -/
def ClusterCall.objectKind? : ClusterCall → Option ObjectKind
  | .get key => some key.kind
  | .create object => some object.kind
  | .update object => some object.kind
  | .delete key => some key.kind
  | .patchStatus .. => none

namespace Operator

def client : Client Call Call.Answer where
  get := fun key => .ask (.cluster (.get key)) id
  create := fun object => .ask (.cluster (.create object)) id
  update := fun object => .ask (.cluster (.update object)) id
  delete := fun key => .ask (.cluster (.delete key)) id

/-- The handler of the objects of that kind. -/
def handler (kind : ObjectKind) (c : WorkflowContext) : Handler Call Call.Answer :=
  Workflow.handler client c kind

/-- The operator with handlers for these kinds, in order. -/
def reconcilerOf (kinds : List ObjectKind) (settings : Settings) : Reconciler Call Call.Answer where
  settings := settings
  handlers := fun c => kinds.map fun kind => handler kind c
  publish := fun build => .ask (.publish build) id
  deploy := fun build artifact => .ask (.deploy build artifact) id
  patchStatus := fun space name status => .ask (.cluster (.patchStatus space name status)) id

/-- The operator with the handlers of the workflows. -/
def reconciler (settings : Settings) : Reconciler Call Call.Answer :=
  reconcilerOf Workflow.handlerOrder settings

end Operator
end BuildOperator
