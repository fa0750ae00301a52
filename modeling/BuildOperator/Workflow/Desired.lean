import BuildOperator.Managed.Object
import BuildOperator.Workflow.Context
/-!
# Desired objects

The service account that workflows run as, the role that lets them report the results of their
tasks, and the binding between the two. All three live in the namespace of the project's workflows.
-/
namespace BuildOperator

namespace Workflow

def serviceAccountName : String := "workflow-sa"

def roleName : String := "workflow-role"

def roleBindingName : String := "workflow-role-binding"

end Workflow

namespace WorkflowContext

def metadata (c : WorkflowContext) (name : String) : Metadata where
  name := some name
  space := some c.ciNamespace
  labels := some c.labels

def serviceAccount (c : WorkflowContext) : ServiceAccount where
  metadata := c.metadata Workflow.serviceAccountName

def role (c : WorkflowContext) : Role where
  metadata := c.metadata Workflow.roleName
  rules := some [{
    apiGroups := some ["argoproj.io"]
    resources := some ["workflowtaskresults"]
    verbs := ["create", "patch"] }]

def roleBinding (c : WorkflowContext) : RoleBinding where
  metadata := c.metadata Workflow.roleBindingName
  roleRef := {
    apiGroup := "rbac.authorization.k8s.io"
    kind := ObjectKind.role.name
    name := Workflow.roleName }
  subjects := some [{
    kind := ObjectKind.serviceAccount.name
    name := Workflow.serviceAccountName
    space := some c.ciNamespace }]

/-- The object of that kind that should exist for the build. -/
def desired (c : WorkflowContext) : ObjectKind → ManagedObject
  | .serviceAccount => .serviceAccount c.serviceAccount
  | .role => .role c.role
  | .roleBinding => .roleBinding c.roleBinding

/-- The key under which the object of that kind is looked up. -/
def key (c : WorkflowContext) (kind : ObjectKind) : ObjectKey where
  kind := kind
  space := c.ciNamespace
  name :=
    match kind with
    | .serviceAccount => Workflow.serviceAccountName
    | .role => Workflow.roleName
    | .roleBinding => Workflow.roleBindingName

theorem key_desired (c : WorkflowContext) (kind : ObjectKind) :
    (c.desired kind).key = c.key kind := by
  cases kind <;> rfl

end WorkflowContext
end BuildOperator
