import BuildOperator.Managed.Object
import BuildOperator.Workflow.Context
/-!
# Drift

When an object in the cluster has to be written again to be as desired. Only what belongs to the
operator is compared, and a list that is empty is the same as none.
-/
namespace BuildOperator

/-- Whether two lists agree, where no list counts as the empty one. -/
def sameItems {α : Type} [DecidableEq α] (a b : Option (List α)) : Bool := a.getD [] = b.getD []

/-- Whether two lists have the same length and their items agree by pairs. -/
def pairwiseSame {α : Type} (same : α → α → Bool) : List α → List α → Bool
  | [], [] => true
  | a :: as, b :: bs => same a b && pairwiseSame same as bs
  | _, _ => false

/-- Whether two texts agree, where the empty one counts as none. -/
def sameText (a b : Option String) : Bool := a.filter (· ≠ "") = b.filter (· ≠ "")

def PolicyRule.same (a b : PolicyRule) : Bool :=
  sameItems a.apiGroups b.apiGroups && sameItems a.resources b.resources &&
    sameItems a.resourceNames b.resourceNames && sameItems a.nonResourceURLs b.nonResourceURLs &&
    a.verbs = b.verbs

def Subject.same (a b : Subject) : Bool :=
  a.kind = b.kind && a.name = b.name && sameText a.space b.space && sameText a.apiGroup b.apiGroup

/-- Whether the labels of the operator differ. -/
def Metadata.labelsDrifted (current desired : Metadata) : Bool :=
  managedLabels current.labels ≠ managedLabels desired.labels

def ServiceAccount.drifted (current desired : ServiceAccount) : Bool :=
  current.metadata.labelsDrifted desired.metadata

def Role.drifted (current desired : Role) : Bool :=
  current.metadata.labelsDrifted desired.metadata ||
    !pairwiseSame PolicyRule.same (current.rules.getD []) (desired.rules.getD [])

def RoleBinding.drifted (current desired : RoleBinding) : Bool :=
  current.metadata.labelsDrifted desired.metadata ||
    !pairwiseSame Subject.same (current.subjects.getD []) (desired.subjects.getD []) ||
    current.roleRef ≠ desired.roleRef

/-- Whether `current` has to be written again to be as `desired`; objects of different kinds
cannot be compared. -/
def ManagedObject.drifted? (current desired : ManagedObject) : Option Bool :=
  match current, desired with
  | .serviceAccount a, .serviceAccount b => some (a.drifted b)
  | .role a, .role b => some (a.drifted b)
  | .roleBinding a, .roleBinding b => some (a.drifted b)
  | _, _ => none

end BuildOperator
