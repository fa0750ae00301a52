import BuildOperator.Cluster.Rehearsal
/-!
# Running attempts

What an attempt comes to in surroundings that are known: its result, the calls it makes, and the
state that it leaves. In a rehearsal without faults and without a cancellation every call is
answered by its effect.
-/
namespace BuildOperator
variable {σ Q : Type} {A : Q → Type} {α β : Type} {w : Surroundings σ Q A}

theorem Pass.run_bind (p : Pass Q A α) (f : α → Pass Q A β) (s : σ) :
    (p.bind f).run w s =
      let first := p.run w s
      let later := (f first.result).run w first.state
      { later with exchanges := first.exchanges ++ later.exchanges } := by
  induction p generalizing s with
  | done a => rfl
  | clock resume ih => exact ih _ s
  | token resume ih => exact ih _ s
  | call q resume ih => simp only [bind, run, ih, List.cons_append]

/-- In these surroundings the attempt succeeds, by these calls and with that state after it. -/
structure Attempt.Reaches (w : Surroundings σ Q A) (a : Attempt Q A α) (s : σ) (v : α)
    (calls : List Q) (s' : σ) : Prop where
  result : (a.run.run w s).result = .ok v
  calls : (a.run.run w s).calls = calls
  state : (a.run.run w s).state = s'

namespace Attempt
variable {s s₁ s₂ : σ}

theorem reaches_pure (v : α) : Reaches w (pure v) s v [] s := ⟨rfl, rfl, rfl⟩

theorem Reaches.bind {a : Attempt Q A α} {f : α → Attempt Q A β} {v : α} {u : β}
    {qs rs : List Q} (ha : Reaches w a s v qs s₁) (hf : Reaches w (f v) s₁ u rs s₂) :
    Reaches w (a >>= f) s u (qs ++ rs) s₂ := by
  have hrun : (a >>= f).run.run w s =
      { (f v).run.run w s₁ with
        exchanges := (a.run.run w s).exchanges ++ ((f v).run.run w s₁).exchanges } := by
    rw [ExceptT.run_bind, Pass.bind_eq, Pass.run_bind]
    simp only [ha.result, ha.state]
  refine ⟨?_, ?_, ?_⟩
  · rw [hrun, hf.result]
  · rw [hrun, ← ha.calls, ← hf.calls]
    exact List.map_append
  · rw [hrun, hf.state]

theorem Reaches.bind_pure {a : Attempt Q A α} {v : α} {qs : List Q} (f : α → β)
    (ha : Reaches w a s v qs s₁) : Reaches w (a >>= fun u => pure (f u)) s (f v) qs s₁ := by
  have hb : Reaches w (a >>= fun u => pure (f u)) s (f v) (qs ++ []) s₁ :=
    ha.bind (reaches_pure (f v))
  rwa [List.append_nil] at hb

theorem reaches_settle {operation : String} (v : α) (hc : w.cancelled s = false) :
    Reaches w ((Task.settle (.ok v)).race operation) s v [] s := by
  have hrun : ((Task.settle (.ok v) : Task Q A α).race operation).run.run w s =
      ⟨.ok v, [], s⟩ := by
    simp only [Task.race, ExceptT.run_mk, Pass.run, hc, Bool.false_eq_true, if_false]
    rfl
  exact ⟨by rw [hrun], by rw [hrun]; rfl, by rw [hrun]⟩

theorem reaches_ask {operation : String} {q : Q} {v : A q} (hc : w.cancelled s = false)
    (ha : w.answer q s = (.settled (.ok v), s₁)) :
    Reaches w ((Task.ask q id).race operation) s v [q] s₁ := by
  have hrun : ((Task.ask q id : Task Q A (A q)).race operation).run.run w s =
      ⟨.ok v, [⟨q, .settled (.ok v)⟩], s₁⟩ := by
    simp only [Task.race, Task.perform, ExceptT.run_mk, Pass.bind, Pass.run, hc,
      Bool.false_eq_true, if_false, ha]
    rfl
  exact ⟨by rw [hrun], by rw [hrun]; rfl, by rw [hrun]⟩

end Attempt

namespace Rehearsal
variable {Place : Type} {place : ObjectKey → Place} {s : Rehearsal place}

/-- Nothing is planned to go wrong. -/
structure Calm (s : Rehearsal place) : Prop where
  faults : s.faults = []
  cancelled : s.cancelled = false

theorem Calm.withStore (h : s.Calm) (store : Store place) : { s with store }.Calm :=
  ⟨h.faults, h.cancelled⟩

variable [DecidableEq Place]

theorem Calm.answer_eq (h : s.Calm) (q : Call) :
    answer q s = (.settled (perform q s).1, (perform q s).2) := by
  have hm : Fault.meet s.faults q = (s.faults, none) := by simp [Fault.meet, h.faults]
  simp only [answer, hm]

theorem Calm.reaches_ask (h : s.Calm) {operation : String} {q : Call} {v : q.Answer}
    {s₁ : Rehearsal place} (hq : perform q s = (.ok v, s₁)) :
    Attempt.Reaches surroundings ((Task.ask q id).race operation) s v [q] s₁ := by
  refine Attempt.reaches_ask h.cancelled ?_
  change answer q s = _
  rw [h.answer_eq, hq]

end Rehearsal
end BuildOperator
