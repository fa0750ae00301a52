/-!
# Settings

What a platform can set for the operator.
-/
namespace BuildOperator

structure Settings where
  /-- Start of the names of the namespaces that workflows run in. -/
  namespaceStem : String := "keel-ci"
  /-- Whether the operator keeps the service account, role and role binding of the workflows. -/
  workflowRbac : Bool := true
  /-- The name under which the operator writes to the cluster. -/
  fieldManager : String := "keel-build-controller"
  deriving DecidableEq

instance : Inhabited Settings := ⟨{}⟩

inductive LogFormat where
  | json
  | pretty
  deriving DecidableEq, Repr

def LogFormat.name : LogFormat → String
  | .json => "json"
  | .pretty => "pretty"

structure LogSettings where
  format : LogFormat := .json
  filter : String := "info,keel=debug,kube=info,tower=warn,hyper=warn"
  deriving DecidableEq

instance : Inhabited LogSettings := ⟨{}⟩

end BuildOperator
