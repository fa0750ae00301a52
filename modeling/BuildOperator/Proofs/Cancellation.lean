import BuildOperator.Proofs.Composition
import BuildOperator.Proofs.Running
/-!
# Cancellation

A pass looks at the token right before each of its calls. Whatever its surroundings are and whenever
the token is cancelled in them, no call starts after that.
-/
namespace BuildOperator
variable {σ Q : Type} {A : Q → Type} {α β : Type}

/-- The state after these exchanges. -/
def Surroundings.after (w : Surroundings σ Q A) (s : σ) (xs : List (Exchange Q A)) : σ :=
  xs.foldl (fun s x => (w.answer x.call s).2) s

namespace Pass

theorem state_run (w : Surroundings σ Q A) (p : Pass Q A α) (s : σ) :
    (p.run w s).state = w.after s (p.run w s).exchanges := by
  induction p generalizing s with
  | done a => rfl
  | clock resume ih => exact ih _ s
  | token resume ih => exact ih _ s
  | call q resume ih => exact ih _ _

/-- In all surroundings, the token is not cancelled where a call of the pass starts. -/
def Wary (p : Pass Q A α) : Prop :=
  ∀ (σ : Type) (w : Surroundings σ Q A) (s : σ) (pre : List (Exchange Q A)) (x : Exchange Q A)
    (post : List (Exchange Q A)), (p.run w s).exchanges = pre ++ x :: post →
      w.cancelled (w.after s pre) = false

theorem wary_done (a : α) : Wary (.done a : Pass Q A α) := by
  intro σ w s pre x post h
  simp [run] at h

theorem wary_now : Wary (now : Pass Q A Timestamp) := by
  intro σ w s pre x post h
  simp [now, run] at h

theorem Wary.bind {p : Pass Q A α} {f : α → Pass Q A β} (hp : Wary p) (hf : ∀ a, Wary (f a)) :
    Wary (p.bind f) := by
  intro σ w s pre x post h
  rw [run_bind] at h
  rcases append_eq_append_cons_iff.mp h with ⟨ws, hfirst, _⟩ | ⟨ws, hpre, hsecond⟩
  · exact hp σ w s pre x ws hfirst
  · have hlater := hf _ σ w (p.run w s).state ws x post hsecond
    rw [state_run] at hlater
    rw [hpre, Surroundings.after, List.foldl_append]
    exact hlater

end Pass

namespace Attempt

def Wary (a : Attempt Q A α) : Prop := a.run.Wary

theorem wary_pure (v : α) : Wary (pure v : Attempt Q A α) := Pass.wary_done _

theorem wary_throw (f : Failure) : Wary (throw f : Attempt Q A α) := Pass.wary_done _

theorem Wary.bind {a : Attempt Q A α} {f : α → Attempt Q A β} (ha : Wary a)
    (hf : ∀ v, Wary (f v)) : Wary (a >>= f) := by
  unfold Wary
  rw [ExceptT.run_bind]
  refine Pass.Wary.bind ha fun result => ?_
  cases result with
  | ok v => exact hf v
  | error e => exact Pass.wary_done _

theorem wary_lift {p : Pass Q A α} (h : p.Wary) : Wary (ExceptT.lift p : Attempt Q A α) :=
  Pass.Wary.bind h fun _ => Pass.wary_done _

theorem wary_now : Wary (now : Attempt Q A Timestamp) := wary_lift Pass.wary_now

theorem wary_race (operation : String) (t : Task Q A α) : Wary (t.race operation) := by
  intro σ w s pre x post h
  cases hc : w.cancelled s with
  | true => simp [Task.race, Pass.run, hc] at h
  | false =>
    -- The token was looked at before the one call that the task can make.
    suffices hpre : pre = [] by rw [hpre]; exact hc
    cases t with
    | settle result => simp [Task.race, Task.perform, Pass.bind, Pass.run, hc] at h
    | ask q read =>
      have hone : ∃ reply, ((Task.ask q read).race operation |>.run.run w s).exchanges =
          [⟨q, reply⟩] := by
        simp only [Task.race, Task.perform, ExceptT.run_mk, Pass.bind, Pass.run, hc,
          Bool.false_eq_true, if_false]
        refine ⟨(w.answer q s).1, ?_⟩
        cases (w.answer q s).1 with
        | settled result => rfl
        | interrupted => rfl
      obtain ⟨reply, hone⟩ := hone
      rw [hone] at h
      cases pre with
      | nil => rfl
      | cons y pre => simp at h

theorem composes_wary : Composes (@Wary Q A) := ⟨wary_pure, Wary.bind⟩

end Attempt

/-- Whatever its handlers and collaborators are, a pass over a build starts no call once the token
is cancelled. -/
theorem Reconciler.wary_reconcile (r : Reconciler Q A) (b : Build) : (r.reconcile b).Wary := by
  have happly (h : Handler Q A) : h.apply.Wary :=
    Attempt.composes_wary.apply (Attempt.wary_race _ _) (Attempt.wary_race _ _)
      (fun _ => Attempt.wary_race _ _) (Attempt.wary_race _ _)
  have hdeploy (next : Build) (artifact : String) : (r.deployArtifact next artifact).Wary :=
    Attempt.composes_wary.deployArtifact Attempt.wary_now
      (Attempt.wary_lift (Attempt.wary_race _ _)) fun _ => Attempt.wary_throw _
  have hpersist (next : Build) : (r.persistStatus next).Wary :=
    Attempt.composes_wary.persistStatus (Attempt.wary_throw _) fun _ _ => Attempt.wary_race _ _
  have hpublication : (r.publishAndDeploy b).Wary :=
    Attempt.composes_wary.publishAndDeploy Attempt.wary_now (Attempt.wary_race _ _) hdeploy hpersist
  exact Attempt.composes_wary.reconcile (fun h _ => happly h) hpublication

end BuildOperator
