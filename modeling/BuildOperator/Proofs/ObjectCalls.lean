import BuildOperator.Cluster.Call
import BuildOperator.Proofs.Composition
/-!
# Calls about objects

A pass over the objects of the workflows makes no call but about these objects: each handler looks
up, makes, mends and removes the object with its own key. It mends an object that it was given only
if that one has drifted, and then writes the desired object in its place, whatever it was given.
-/
namespace BuildOperator

theorem Attempt.Makes.imp {Q : Type} {A : Q → Type} {α : Type} {p p' : Q → Prop}
    {a : Attempt Q A α} (ha : a.Makes p) (h : ∀ q, p q → p' q) : a.Makes p' :=
  fun xs r he x hx => h _ (ha xs r he x hx)

/-- The key of the object that a call is about. -/
def ClusterCall.key? : ClusterCall → Option ObjectKey
  | .get key => some key
  | .create object => some object.key
  | .update object => some object.key
  | .delete key => some key
  | .patchStatus .. => none

def Call.key? : Call → Option ObjectKey
  | .cluster call => call.key?
  | .publish _ | .deploy .. => none

/-- What is written in place of an object that was read. -/
def WorkflowContext.replacement (c : WorkflowContext) (kind : ObjectKind)
    (current : ManagedObject) : ManagedObject :=
  (c.desired kind).withVersion current.resourceVersion

theorem WorkflowContext.key_replacement (c : WorkflowContext) (kind : ObjectKind)
    (current : ManagedObject) : (c.replacement kind current).key = c.key kind := by
  rw [replacement, ManagedObject.key_withVersion, c.key_desired]

namespace Operator
variable {c : WorkflowContext} {kind : ObjectKind}

theorem update_of_drifted {current : ManagedObject}
    (h : current.drifted? (c.desired kind) = some true) :
    (handler kind c).update current =
      .ask (.cluster (.update (c.replacement kind current))) id := by
  simp only [handler, Workflow.handler, Client.converge, h]
  rfl

theorem makes_update (current : ManagedObject) {operation : String} :
    (((handler kind c).update current).race operation).Makes fun call =>
      call = .cluster (.update (c.replacement kind current)) ∧
        current.drifted? (c.desired kind) = some true := by
  cases hd : current.drifted? (c.desired kind) with
  | none =>
    simp only [handler, Workflow.handler, Client.converge, hd]
    exact Task.makes_race_settle _
  | some drifted =>
    cases drifted with
    | false =>
      simp only [handler, Workflow.handler, Client.converge, hd]
      exact Task.makes_race_settle _
    | true =>
      rw [update_of_drifted hd]
      exact Task.makes_race_ask ⟨rfl, rfl⟩

theorem makes_apply (c : WorkflowContext) (kind : ObjectKind) :
    (handler kind c).apply.Makes fun call => call.key? = some (c.key kind) := by
  refine Attempt.composes_makes.apply (Task.makes_race_ask rfl)
    (Task.makes_race_ask (congrArg some (c.key_desired kind))) (fun current => ?_) ?_
  · refine (makes_update current).imp fun call h => ?_
    rw [h.1]
    exact congrArg some (c.key_replacement kind current)
  · cases kind with
    | serviceAccount => exact Task.makes_race_settle _
    | role | roleBinding => exact Task.makes_race_ask rfl

/-- A pass is about the objects of the build's project and nothing else. -/
theorem makes_reconcileResources_key (kinds : List ObjectKind) (settings : Settings) (b : Build) :
    ((reconcilerOf kinds settings).reconcileResources b).Makes fun call =>
      ∃ kind ∈ kinds, call.key? = some (WorkflowContext.key ⟨b, settings⟩ kind) := by
  refine Attempt.composes_makes.applyAll fun h hm => ?_
  obtain ⟨kind, hk, rfl⟩ := List.mem_map.mp hm
  exact (makes_apply ⟨b, settings⟩ kind).imp fun _ h => ⟨kind, hk, h⟩

end Operator
end BuildOperator
