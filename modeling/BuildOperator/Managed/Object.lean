import BuildOperator.Metadata
/-!
# Managed objects

The objects that the operator keeps in the cluster for its workflows: service accounts, roles and
role bindings. An object is known by its kind, namespace and name.
-/
namespace BuildOperator

inductive ObjectKind where
  | serviceAccount
  | role
  | roleBinding
  deriving DecidableEq, Repr

namespace ObjectKind

def all : List ObjectKind := [.serviceAccount, .role, .roleBinding]

def name : ObjectKind → String
  | .serviceAccount => "ServiceAccount"
  | .role => "Role"
  | .roleBinding => "RoleBinding"

def apiVersion : ObjectKind → String
  | .serviceAccount => "v1"
  | .role | .roleBinding => "rbac.authorization.k8s.io/v1"

end ObjectKind

structure ObjectKey where
  kind : ObjectKind
  space : String
  name : String
  deriving DecidableEq

def ObjectKey.text (k : ObjectKey) : String := k.kind.name ++ " " ++ k.space ++ "/" ++ k.name

/-- A reference to a secret or another object. -/
structure ObjectReference where
  apiVersion : Option String := none
  fieldPath : Option String := none
  kind : Option String := none
  name : Option String := none
  space : Option String := none
  resourceVersion : Option String := none
  uid : Option String := none
  deriving DecidableEq

structure ServiceAccount where
  metadata : Metadata := {}
  automountToken : Option Bool := none
  imagePullSecrets : Option (List String) := none
  secrets : Option (List ObjectReference) := none
  deriving DecidableEq

/-- What a role allows: verbs on resources, or on addresses that belong to no resource. -/
structure PolicyRule where
  apiGroups : Option (List String) := none
  nonResourceURLs : Option (List String) := none
  resourceNames : Option (List String) := none
  resources : Option (List String) := none
  verbs : List String := []
  deriving DecidableEq

structure Role where
  metadata : Metadata := {}
  rules : Option (List PolicyRule) := none
  deriving DecidableEq

/-- Whom a role binding gives its role. -/
structure Subject where
  apiGroup : Option String := none
  kind : String := ""
  name : String := ""
  space : Option String := none
  deriving DecidableEq

structure RoleRef where
  apiGroup : String := ""
  kind : String := ""
  name : String := ""
  deriving DecidableEq

structure RoleBinding where
  metadata : Metadata := {}
  roleRef : RoleRef := {}
  subjects : Option (List Subject) := none
  deriving DecidableEq

inductive ManagedObject where
  | serviceAccount (object : ServiceAccount)
  | role (object : Role)
  | roleBinding (object : RoleBinding)
  deriving DecidableEq

namespace ManagedObject

def kind : ManagedObject → ObjectKind
  | .serviceAccount _ => .serviceAccount
  | .role _ => .role
  | .roleBinding _ => .roleBinding

def metadata : ManagedObject → Metadata
  | .serviceAccount o => o.metadata
  | .role o => o.metadata
  | .roleBinding o => o.metadata

def withMetadata (metadata : Metadata) : ManagedObject → ManagedObject
  | .serviceAccount o => .serviceAccount { o with metadata }
  | .role o => .role { o with metadata }
  | .roleBinding o => .roleBinding { o with metadata }

/-- The key that the metadata of the object gives it. -/
def key (o : ManagedObject) : ObjectKey :=
  ⟨o.kind, o.metadata.space.getD "", o.metadata.name.getD ""⟩

/-- The version of the stored object that this one was read from or is based on. -/
def resourceVersion (o : ManagedObject) : Option String := o.metadata.resourceVersion

def withVersion (version : Option String) (o : ManagedObject) : ManagedObject :=
  o.withMetadata { o.metadata with resourceVersion := version }

@[simp] theorem metadata_withMetadata (m : Metadata) (o : ManagedObject) :
    (o.withMetadata m).metadata = m := by
  cases o <;> rfl

@[simp] theorem kind_withMetadata (m : Metadata) (o : ManagedObject) :
    (o.withMetadata m).kind = o.kind := by
  cases o <;> rfl

@[simp] theorem key_withVersion (v : Option String) (o : ManagedObject) :
    (o.withVersion v).key = o.key := by
  simp [key, withVersion]

@[simp] theorem resourceVersion_withVersion (v : Option String) (o : ManagedObject) :
    (o.withVersion v).resourceVersion = v := by
  simp [resourceVersion, withVersion]

end ManagedObject
end BuildOperator
