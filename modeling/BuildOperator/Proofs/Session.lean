import BuildOperator.Proofs.StatusWrites
import BuildOperator.Proofs.Timeless
/-!
# Sessions

Between the calls of the operator, the status of a build in memory is the one that was written last,
or the one it had at first if none was written. A call that fails or skips leaves the build as it
was, and a call that records writes once. To repeat an event until it is recorded therefore comes to
the same as to record it at the first attempt, up to the times of the conditions.
-/
namespace BuildOperator

/-- What a reconciler is asked to do with the status of a build. -/
inductive Request where
  | event (event : PipelineEvent)
  | publication

section
variable {Q : Type} {A : Q → Type}

def Reconciler.serve (r : Reconciler Q A) (b : Build) :
    Request → Pass Q A (Build × Except Failure Transition)
  | .event event => r.recordEvent b event
  | .publication => r.publishArtifact b

/-- The build after requests, one after the other, and all their exchanges. Each request may end in
any way. -/
inductive Session (r : Reconciler Q A) (b : Build) : List (Exchange Q A) → Build → Prop where
  | start : Session r b [] b
  | serve {xs ys : List (Exchange Q A)} {b₁ b₂ : Build} {request : Request}
      {result : Except Failure Transition} (h : Session r b xs b₁)
      (hs : (r.serve b₁ request).Ends ys (b₂, result)) : Session r b (xs ++ ys) b₂

/-- An event is recorded again as long as that fails; the build after it, and the answer. -/
inductive Retried (r : Reconciler Q A) (e : PipelineEvent) : Build → Build → Transition → Prop where
  | settled {b b' : Build} {t : Transition} {xs : List (Exchange Q A)}
      (h : (r.recordEvent b e).Ends xs (b', .ok t)) : Retried r e b b' t
  | again {b b₁ b' : Build} {t : Transition} {f : Failure} {xs : List (Exchange Q A)}
      (h : (r.recordEvent b e).Ends xs (b₁, .error f)) (hr : Retried r e b₁ b' t) :
      Retried r e b b' t

end

namespace Reconciler
variable {Q : Type} {A : Q → Type} {r : Reconciler Q A} {b b' : Build} {request : Request}
  {e : PipelineEvent} {xs : List (Exchange Q A)}

theorem ends_recordEvent_ok {t : Transition} (h : (r.recordEvent b e).Ends xs (b', .ok t)) :
    ∃ now later, b.recordEvent e now later = (b', t) ∧
      (t = .recorded → (r.persistStatus b').Ends xs (.ok ())) ∧ (t ≠ .recorded → xs = []) := by
  obtain ⟨now, later, hm⟩ := ends_recordEvent_iff.mp h
  refine ⟨now, later, ?_⟩
  cases he : b.recordEvent e now later with
  | mk next answer =>
    rw [he] at hm
    cases answer with
    | skipped reason =>
      obtain ⟨rfl, ho⟩ := hm
      obtain ⟨rfl, rfl⟩ : b' = next ∧ t = .skipped reason := by simpa using ho
      exact ⟨rfl, by simp, by simp⟩
    | recorded =>
      rcases hm with ⟨_, hp, ho⟩ | ⟨_, _, ho⟩
      · obtain ⟨rfl, rfl⟩ : b' = next ∧ t = .recorded := by simpa using ho
        exact ⟨rfl, fun _ => hp, by simp⟩
      · simp at ho

theorem ends_serve_error {f : Failure} (h : (r.serve b request).Ends xs (b', .error f)) :
    b' = b ∧ ∃ next, (r.persistStatus next).Ends xs (.error f) ∨
      (r.publishAndDeploy b).Ends xs (.error f) := by
  cases request with
  | event e =>
    obtain ⟨now, later, hm⟩ := ends_recordEvent_iff.mp h
    split at hm
    · simp at hm
    · next next _ =>
      rcases hm with ⟨_, _, ho⟩ | ⟨f', hp, ho⟩
      · simp at ho
      · obtain ⟨rfl, rfl⟩ : b' = b ∧ f = f' := by simpa using ho
        exact ⟨rfl, next, Or.inl hp⟩
  | publication =>
    have hm := ends_publishArtifact_iff.mp h
    split at hm
    · rcases hm with ⟨_, _, ho⟩ | ⟨f', hp, ho⟩
      · simp at ho
      · obtain ⟨rfl, rfl⟩ : b' = b ∧ f = f' := by simpa using ho
        exact ⟨rfl, b', Or.inr hp⟩
    · simp at hm

theorem ends_serve_skipped {reason : SkipReason}
    (h : (r.serve b request).Ends xs (b', .ok (.skipped reason))) : b' = b ∧ xs = [] := by
  cases request with
  | event e =>
    obtain ⟨now, later, he, _, hx⟩ := ends_recordEvent_ok h
    have hm := Build.effect_event b e now later
    rw [he] at hm
    exact ⟨hm.eq_of_skipped, hx (by simp)⟩
  | publication =>
    have hm := ends_publishArtifact_iff.mp h
    split at hm
    · simp at hm
    · obtain ⟨rfl, ho⟩ := hm
      exact ⟨by simpa using congrArg Prod.fst ho, rfl⟩

end Reconciler

namespace Operator
variable {kinds : List ObjectKind} {settings : Settings} {b b' : Build} {request : Request}
  {xs : List (Exchange Call Call.Answer)}

theorem lastWritten?_of_error {f : Failure}
    (h : ((reconcilerOf kinds settings).serve b request).Ends xs (b', .error f)) :
    lastWritten? xs = none := by
  obtain ⟨_, next, hp | hp⟩ := Reconciler.ends_serve_error h
  · exact ends_persistStatus_error hp
  · exact ends_publishAndDeploy_error hp

theorem statusWrites_of_recorded
    (h : ((reconcilerOf kinds settings).serve b request).Ends xs (b', .ok .recorded)) :
    ∃ space status, b.metadata.space = some space ∧ b'.status = some status ∧ statusWrites xs =
      [⟨.cluster (.patchStatus space b.displayName status), .settled (.ok ())⟩] := by
  -- Either way the new build has a status and the metadata of the old one, and it is written.
  suffices hw : b'.metadata = b.metadata ∧ b'.status = some b'.currentStatus ∧
      ∃ zs, ((reconcilerOf kinds settings).persistStatus b').Ends zs (.ok ()) ∧
        statusWrites xs = statusWrites zs by
    obtain ⟨hm, hs, zs, hp, hx⟩ := hw
    obtain ⟨space, hn, rfl⟩ := ends_persistStatus_ok hs hp
    rw [Build.displayName_congr hm] at hx
    exact ⟨space, b'.currentStatus, hm ▸ hn, hs, hx⟩
  cases request with
  | event e =>
    obtain ⟨now, later, he, hp, _⟩ := Reconciler.ends_recordEvent_ok h
    obtain ⟨rfl, ht⟩ := Prod.ext_iff.mp he
    exact ⟨Build.metadata_mark b (.event e) now later, Build.status_recordEvent ht, xs, hp rfl, rfl⟩
  | publication =>
    have hm := Reconciler.ends_publishArtifact_iff.mp h
    split at hm
    · next hpending =>
      rcases hm with ⟨next, hp, ho⟩ | ⟨_, _, ho⟩
      · obtain rfl : b' = next := congrArg Prod.fst ho
        have hs := Build.status_of_artifactPending hpending
        refine ⟨?_, ?_, ends_publishAndDeploy_ok_writes hp⟩
        · obtain ⟨now, rfl | ⟨succeeded, later, rfl⟩⟩ := Reconciler.ends_publishAndDeploy_ok hp
          · exact Build.metadata_mark b .artifact now now
          · exact (Build.metadata_mark _ (.deployment succeeded) later later).trans
              (Build.metadata_mark b .artifact now now)
        · obtain ⟨now, rfl | ⟨succeeded, later, rfl⟩⟩ := Reconciler.ends_publishAndDeploy_ok hp
          · exact Build.status_mark hs .artifact now now
          · exact Build.status_mark (Build.status_mark hs .artifact now now)
              (.deployment succeeded) later later
      · simp at ho
    · simp at hm

/-- A request leaves in memory what it wrote, or what was there. -/
theorem status_of_serve {result : Except Failure Transition}
    (h : ((reconcilerOf kinds settings).serve b request).Ends xs (b', result)) :
    b'.status = (lastWritten? xs).or b.status := by
  rcases result with f | _ | reason
  · rw [lastWritten?_of_error h, (Reconciler.ends_serve_error h).1]
    rfl
  · obtain ⟨space, status, _, hs, hx⟩ := statusWrites_of_recorded h
    rw [← lastWritten?_statusWrites, hx, hs]
    rfl
  · obtain ⟨rfl, rfl⟩ := Reconciler.ends_serve_skipped h
    rfl

end Operator

/-- Failed attempts leave no trace: what is recorded in the end could have been recorded at once. -/
theorem Retried.ends {Q : Type} {A : Q → Type} {r : Reconciler Q A} {e : PipelineEvent}
    {b b' : Build} {t : Transition} (h : Retried r e b b' t) :
    ∃ xs, (r.recordEvent b e).Ends xs (b', .ok t) := by
  induction h with
  | settled h => exact ⟨_, h⟩
  | @again b b₁ _ _ f xs h _ ih =>
    have hs : (r.serve b (.event e)).Ends xs (b₁, .error f) := h
    obtain ⟨rfl, _⟩ := Reconciler.ends_serve_error hs
    exact ih

/-- In every session the status in memory is the one written last, or else the first one. The next
call leaves the build as it was if it fails or skips, and writes once if it records. An event that
is repeated until it is recorded has the answer of a first attempt, and its build up to times. -/
theorem memory_of_session {kinds : List ObjectKind} {settings : Settings} {b b₁ : Build}
    {log : List (Exchange Call Call.Answer)}
    (h : Session (Operator.reconcilerOf kinds settings) b log b₁) :
    b₁.status = (lastWritten? log).or b.status ∧
    (∀ request xs b₂ f,
      ((Operator.reconcilerOf kinds settings).serve b₁ request).Ends xs (b₂, .error f) → b₂ = b₁) ∧
    (∀ request xs b₂ reason,
      ((Operator.reconcilerOf kinds settings).serve b₁ request).Ends xs
        (b₂, .ok (.skipped reason)) → b₂ = b₁ ∧ statusWrites xs = []) ∧
    (∀ request xs b₂,
      ((Operator.reconcilerOf kinds settings).serve b₁ request).Ends xs (b₂, .ok .recorded) →
        ∃ space status, b₁.metadata.space = some space ∧ b₂.status = some status ∧
          statusWrites xs =
            [⟨.cluster (.patchStatus space b₁.displayName status), .settled (.ok ())⟩]) ∧
    ∀ e b₂ t, Retried (Operator.reconcilerOf kinds settings) e b₁ b₂ t → ∀ xs b₃ t',
      ((Operator.reconcilerOf kinds settings).recordEvent b₁ e).Ends xs (b₃, .ok t') →
        t = t' ∧ b₂.timeless = b₃.timeless := by
  refine ⟨?_, fun _ _ _ _ he => (Reconciler.ends_serve_error he).1, ?_,
    fun _ _ _ => Operator.statusWrites_of_recorded, ?_⟩
  · induction h with
    | start => rfl
    | serve _ hs ih =>
      rw [Operator.status_of_serve hs, ih, lastWritten?_append, Option.or_assoc]
  · intro _ _ _ _ hs
    obtain ⟨rfl, rfl⟩ := Reconciler.ends_serve_skipped hs
    exact ⟨rfl, rfl⟩
  · intro e b₂ t hr xs b₃ t' hx
    obtain ⟨_, hr⟩ := hr.ends
    obtain ⟨now, later, h₂, _⟩ := Reconciler.ends_recordEvent_ok hr
    obtain ⟨now', later', h₃, _⟩ := Reconciler.ends_recordEvent_ok hx
    have hc := b₁.recordEvent_timeless e now later now' later'
    rwa [h₂, h₃] at hc

/-- Surroundings whose first write of a status fails, and which interrupt all but such writes. -/
def flaky : Surroundings Nat Call Call.Answer where
  cancelled := fun _ => false
  now := fun _ => .epoch
  answer := fun
    | .cluster (.patchStatus ..), 0 => (.settled (.error (.api .unreadable)), 1)
    | .cluster (.patchStatus ..), n + 1 => (.settled (.ok ()), n + 2)
    | _, n => (.interrupted, n)

def firstTry : Outcome Nat Call Call.Answer (Build × Except Failure Transition) :=
  ((Operator.reconciler {}).recordEvent Build.checkout .accepted).run flaky 0

def secondTry : Outcome Nat Call Call.Answer (Build × Except Failure Transition) :=
  ((Operator.reconciler {}).recordEvent Build.checkout .accepted).run flaky firstTry.state

theorem memory_of_secondTry : firstTry.result = (Build.checkout, .error (.api .unreadable)) ∧
    Session (Operator.reconciler {}) Build.checkout (firstTry.exchanges ++ secondTry.exchanges)
      secondTry.result.1 ∧
    secondTry.result.1.status = lastWritten? (firstTry.exchanges ++ secondTry.exchanges) ∧
    Retried (Operator.reconciler {}) .accepted Build.checkout secondTry.result.1 .recorded ∧
    secondTry.result.1.timeless = (Build.checkout.recordEvent .accepted .epoch).1.timeless := by
  have h₁ : ((Operator.reconciler {}).serve Build.checkout (.event .accepted)).Ends
      firstTry.exchanges (Build.checkout, .error (.api .unreadable)) := Pass.ends_run flaky _ 0
  have h₂ : ((Operator.reconciler {}).serve Build.checkout (.event .accepted)).Ends
      secondTry.exchanges (secondTry.result.1, .ok .recorded) := Pass.ends_run flaky _ 1
  have hs : Session (Operator.reconciler {}) Build.checkout
      (firstTry.exchanges ++ secondTry.exchanges) secondTry.result.1 :=
    .serve (.serve .start h₁) h₂
  have hr : Retried (Operator.reconciler {}) .accepted Build.checkout secondTry.result.1
      .recorded := .again h₁ (.settled h₂)
  refine ⟨rfl, hs, ?_, hr, ?_⟩
  · exact (memory_of_session hs).1.trans (by decide)
  · exact ((memory_of_session .start).2.2.2.2 _ _ _ hr _ _ _ h₂).2.trans (by decide)

end BuildOperator
