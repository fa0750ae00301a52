import BuildOperator.Build.Basic
import BuildOperator.Settings
import BuildOperator.Workflow.Namespace
/-!
# Workflow context

A build with the settings of the platform: what the names, namespaces and labels of the objects
that are managed for it follow from.
-/
namespace BuildOperator

/-- The label that tells who manages an object. -/
def managedByLabel : String := "app.kubernetes.io/managed-by"

/-- The label that tells which project an object serves. -/
def projectLabel : String := "keel.dev/project"

/-- The label that tells which component an object serves. -/
def componentLabel : String := "keel.dev/component"

/-- The value of the managed-by label on every object of the operator. -/
def operatorName : String := "keel"

/-- The labels that belong to the operator; all others belong to somebody else. -/
def managedLabelKeys : List String := [managedByLabel, projectLabel, componentLabel]

def managedLabels (labels : Option (Dictionary String)) : Dictionary String :=
  (labels.getD .empty).filterKeys fun key => key ∈ managedLabelKeys

/-- The labels of every object that is made for a build. -/
def Build.labels (b : Build) : Dictionary String :=
  .ofList [
    (managedByLabel, operatorName),
    (projectLabel, b.spec.project),
    (componentLabel, b.spec.component)]

structure WorkflowContext where
  build : Build
  settings : Settings

namespace WorkflowContext

/-- The namespace that the workflows of the build's project run in. -/
def ciNamespace (c : WorkflowContext) : String :=
  Workflow.namespaceName (c.settings.namespaceStem ++ "-" ++ c.build.spec.project)

def labels (c : WorkflowContext) : Dictionary String := c.build.labels

end WorkflowContext
end BuildOperator
