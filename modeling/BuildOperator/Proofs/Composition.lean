import BuildOperator.Proofs.ReconcilerCalls
/-!
# Properties of composed attempts

A property that holds of returning at once, and of a sequence wherever it holds of both parts, holds
of the attempts of a reconciler if it holds of the tasks that these are made of.
-/
namespace BuildOperator
variable {Q : Type} {A : Q → Type}

structure Attempt.Composes (P : {α : Type} → Attempt Q A α → Prop) : Prop where
  pure : ∀ {α : Type} (v : α), P (Pure.pure v : Attempt Q A α)
  bind : ∀ {α β : Type} {a : Attempt Q A α} {f : α → Attempt Q A β}, P a → (∀ v, P (f v)) →
    P (a >>= f)

theorem Attempt.composes_makes {p : Q → Prop} :
    Composes fun {α : Type} (a : Attempt Q A α) => a.Makes p := ⟨makes_pure, Makes.bind⟩

namespace Attempt.Composes
variable {P : {α : Type} → Attempt Q A α → Prop} (hP : Composes P)
include hP

theorem apply {h : Handler Q A} (hget : P (h.current.race ("get " ++ h.name)))
    (hcreate : P (h.create.race ("create " ++ h.name)))
    (hupdate : ∀ object, P ((h.update object).race ("update " ++ h.name)))
    (hdelete : P (h.delete.race ("delete " ++ h.name))) : P h.apply := by
  unfold Handler.apply
  split
  · refine hP.bind hget fun found => ?_
    cases found with
    | none => exact hP.bind hcreate fun _ => hP.pure _
    | some object => exact hP.bind (hupdate object) fun _ => hP.pure _
  · exact hP.bind hdelete fun _ => hP.pure _

theorem applyAll {hs : List (Handler Q A)} (h : ∀ h ∈ hs, P h.apply) :
    P (Handler.applyAll hs) := by
  induction hs with
  | nil => exact hP.pure _
  | cons first rest ih =>
    have hfirst : P first.apply := h first List.mem_cons_self
    have hrest := ih fun other hm => h other (List.mem_cons_of_mem _ hm)
    exact hP.bind hfirst fun _ => hP.bind hrest fun _ => hP.pure _

variable {r : Reconciler Q A} {b : Build}

theorem persistStatus
    (hthrow : P (throw (.missingNamespace "Build" b.displayName) : Attempt Q A Unit))
    (hpatch : ∀ space status, P ((r.patchStatus space b.displayName status).race
      ("patch status of build " ++ b.displayName))) : P (r.persistStatus b) := by
  unfold Reconciler.persistStatus
  split
  · exact hthrow
  · split
    · exact hP.pure _
    · exact hpatch _ _

section
variable (hnow : P Attempt.now)
include hnow

theorem deployArtifact {artifact : String}
    (hresult : P (Attempt.result ((r.deploy b artifact).race "apply deployment")))
    (hthrow : ∀ operation, P (throw (.cancelled operation) : Attempt Q A Build)) :
    P (r.deployArtifact b artifact) := by
  refine hP.bind hresult fun result => ?_
  split
  · exact hthrow _
  · exact hP.bind hnow fun _ => hP.pure _

theorem draft (hpublish : P ((r.publish b).race "create deployable artifact"))
    (hdeploy : ∀ next artifact, P (r.deployArtifact next artifact)) : P (r.draft b) := by
  refine hP.bind hpublish fun artifact => hP.bind hnow fun now => ?_
  dsimp only
  split
  · exact hdeploy _ artifact
  · exact hP.pure _

theorem publishAndDeploy (hpublish : P ((r.publish b).race "create deployable artifact"))
    (hdeploy : ∀ next artifact, P (r.deployArtifact next artifact))
    (hpersist : ∀ next, P (r.persistStatus next)) : P (r.publishAndDeploy b) := by
  rw [Reconciler.publishAndDeploy_eq]
  exact hP.bind (hP.draft hnow hpublish hdeploy) fun next =>
    hP.bind (hpersist next) fun _ => hP.pure _

end

theorem reconcile (happly : ∀ h ∈ r.handlers ⟨b, r.settings⟩, P h.apply)
    (hpublication : P (r.publishAndDeploy b)) : P (r.reconcile b) := by
  rw [Reconciler.reconcile_eq]
  refine hP.bind (hP.applyAll happly) fun _ => ?_
  split
  · exact hP.bind hpublication fun _ => hP.pure _
  · exact hP.pure _

end Attempt.Composes
end BuildOperator
