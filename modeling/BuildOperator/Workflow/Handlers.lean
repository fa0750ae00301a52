import BuildOperator.Managed.Drift
import BuildOperator.Pass.Handler
import BuildOperator.Workflow.Desired
/-!
# Workflow handlers

The handlers of the service account, the role and the role binding of a project's workflows.
-/
namespace BuildOperator

/-- How the operator reaches the objects of the cluster. -/
structure Client (Q : Type) (A : Q → Type) where
  get : ObjectKey → Task Q A (Option ManagedObject)
  create : ManagedObject → Task Q A Unit
  update : ManagedObject → Task Q A Unit
  delete : ObjectKey → Task Q A Unit

namespace Client
variable {Q : Type} {A : Q → Type}

/-- Write `desired` in place of `current` if it drifted. The version of `current` goes with it, so
that the cluster refuses the write when somebody else wrote meanwhile. -/
def converge (client : Client Q A) (handler : String) (current desired : ManagedObject) :
    Task Q A Unit :=
  match current.drifted? desired with
  | none => .settle (.error (.kindMismatch handler desired.kind current.kind))
  | some false => .settle (.ok ())
  | some true => client.update (desired.withVersion current.resourceVersion)

end Client

namespace Workflow

def handlerName : ObjectKind → String
  | .serviceAccount => "WorkflowServiceAccount"
  | .role => "WorkflowRole"
  | .roleBinding => "WorkflowRoleBinding"

/-- The handler of the object of that kind. The service account is never removed: all builds of a
project share it, and it goes with the namespace. -/
def handler {Q : Type} {A : Q → Type} (client : Client Q A) (c : WorkflowContext)
    (kind : ObjectKind) : Handler Q A where
  name := handlerName kind
  required := c.settings.workflowRbac
  current := client.get (c.key kind)
  create := client.create (c.desired kind)
  update := fun current => client.converge (handlerName kind) current (c.desired kind)
  delete :=
    match kind with
    | .serviceAccount => .settle (.ok ())
    | .role | .roleBinding => client.delete (c.key kind)

/-- The kinds of the managed objects, in the order in which they are applied. -/
def handlerOrder : List ObjectKind := [.serviceAccount, .role, .roleBinding]

def handlers {Q : Type} {A : Q → Type} (client : Client Q A) (c : WorkflowContext) :
    List (Handler Q A) :=
  handlerOrder.map (handler client c)

end Workflow
end BuildOperator
