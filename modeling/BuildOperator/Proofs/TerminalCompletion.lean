import BuildOperator.Cluster.Call
import BuildOperator.Proofs.ReconcilerCalls
import Mathlib.Logic.Relation
/-!
# A completion is terminal

Once the first completion of a build is true or false for its generation, no call changes it before
the generation does, however the status came about: neither a mark nor a call of a reconciler,
whatever its collaborators answer. Events of steps and of completion are skipped from then on.
-/
namespace BuildOperator

/-- Why events are skipped after this completion. -/
def Condition.skipReason (c : Condition) : SkipReason :=
  if c.status = .fails then .pipelineFailed else .alreadyCompleted

namespace Build
variable {b b' : Build} {c : Condition}

/-- A build is marked at some time. -/
inductive Marked : Build → Build → Prop where
  | mark (b : Build) (m : Mark) (now later : Timestamp) : Marked b (b.mark m now later).1

/-- A build is marked, or a reconciler with any collaborators is called on it and ends somehow. -/
inductive Served : Build → Build → Prop where
  | mark (b : Build) (m : Mark) (now later : Timestamp) : Served b (b.mark m now later).1
  | event {Q : Type} {A : Q → Type} (r : Reconciler Q A) {b b' : Build} {e : PipelineEvent}
      {xs : List (Exchange Q A)} {result : Except Failure Transition}
      (h : (r.recordEvent b e).Ends xs (b', result)) : Served b b'
  | publication {Q : Type} {A : Q → Type} (r : Reconciler Q A) {b b' : Build}
      {xs : List (Exchange Q A)} {result : Except Failure Transition}
      (h : (r.publishArtifact b).Ends xs (b', result)) : Served b b'

theorem Served.marked (h : Served b b') : Relation.ReflTransGen Marked b b' := by
  cases h with
  | mark _ m now later => exact .single (.mark b m now later)
  | @event Q A r _ _ e xs result h =>
    obtain ⟨now, later, hm⟩ := Reconciler.ends_recordEvent_iff.mp h
    have hs : Marked b (b.recordEvent e now later).1 := .mark b (.event e) now later
    cases he : b.recordEvent e now later with
    | mk next t =>
      rw [he] at hm hs
      cases t with
      | skipped reason =>
        obtain ⟨_, ho⟩ := hm
        injection ho with ho
        exact ho ▸ .single hs
      | recorded =>
        rcases hm with ⟨_, _, ho⟩ | ⟨_, _, ho⟩ <;> injection ho with ho
        · exact ho ▸ .single hs
        · exact ho ▸ .refl
  | @publication Q A r _ _ xs result h =>
    have hm := Reconciler.ends_publishArtifact_iff.mp h
    split at hm
    · rcases hm with ⟨next, hp, ho⟩ | ⟨_, _, ho⟩ <;> injection ho with ho
      · obtain ⟨now, hn | ⟨succeeded, later, hn⟩⟩ := Reconciler.ends_publishAndDeploy_ok hp
        · exact ho ▸ hn ▸ .single (.mark b .artifact now now)
        · have ha : Marked b (b.recordArtifact now).1 := .mark b .artifact now now
          exact ho ▸ hn ▸ (Relation.ReflTransGen.single ha).tail
            (.mark _ (.deployment succeeded) later later)
      · exact ho ▸ .refl
    · obtain ⟨_, ho⟩ := hm
      injection ho with ho
      exact ho ▸ .refl

/-- The first completion of a build is true or false for its generation. -/
structure Terminal (b : Build) (c : Condition) : Prop where
  found : b.conditions.find? .completed = some c
  current : c.observedGeneration = b.generation
  decided : c.status ≠ .unknown

namespace Terminal

theorem standing?_eq (h : b.Terminal c) : b.standing? .completed = some c.status := by
  simp [standing?, current?, Option.filter, h.found, h.current]

theorem finished?_eq (h : b.Terminal c) : b.finished? = some c.skipReason := by
  have hs := h.standing?_eq
  unfold Condition.skipReason
  cases hc : c.status with
  | unknown => exact absurd hc h.decided
  | holds => exact finished?_of_holds (hc ▸ hs)
  | fails => exact finished?_of_fails (hc ▸ hs)

theorem record (h : b.Terminal c) {t : ConditionType} (ht : t ≠ .completed)
    (st : ConditionStatus) (remark : Remark) (now : Timestamp) :
    (b.record t st remark now).Terminal c := by
  refine ⟨?_, h.current, h.decided⟩
  rw [find?_record_of_ne ht.symm]
  exact h.found

/-- A mark on a terminal build changes nothing, or it is a record of another type. -/
theorem mark_eq (h : b.Terminal c) (m : Mark) (now later : Timestamp) :
    (b.mark m now later).1 = b ∨ ∃ t st remark, t ≠ .completed ∧
      (b.mark m now later).1 = b.record t st remark now := by
  have hm := effect_mark b m now later
  generalize b.mark m now later = out at hm ⊢
  cases hm with
  | accepted => exact Or.inr ⟨.initialized, _, _, by decide, rfl⟩
  | finished | notCompleted | noArtifact => exact Or.inl rfl
  | stepSucceeded hf | stepFailed hf | image hf | imageMissing hf =>
    -- These are made only before the pipeline has finished.
    rw [h.finished?_eq] at hf
    cases hf
  | artifact => exact Or.inr ⟨.deployableArtifactCreated, _, _, by decide, rfl⟩
  | deployed | notDeployed => exact Or.inr ⟨.deploymentApplied, _, _, by decide, rfl⟩

theorem marked (h : b.Terminal c) (hm : Marked b b') :
    b'.Terminal c ∧ b'.currentStatus.imageStatus = b.currentStatus.imageStatus := by
  cases hm with
  | mark m now later =>
    rcases h.mark_eq m now later with he | ⟨t, st, remark, ht, he⟩
    · rw [he]
      exact ⟨h, rfl⟩
    · rw [he]
      exact ⟨h.record ht st remark now, rfl⟩

theorem served (h : b.Terminal c) (hs : Served b b') :
    b'.Terminal c ∧ b'.currentStatus.imageStatus = b.currentStatus.imageStatus := by
  have hm := hs.marked
  clear hs
  induction hm with
  | refl => exact ⟨h, rfl⟩
  | tail _ hm ih =>
    obtain ⟨ht, hi⟩ := ih.1.marked hm
    exact ⟨ht, hi.trans ih.2⟩

end Terminal
end Build

theorem Reconciler.ends_recordEvent_of_terminal {Q : Type} {A : Q → Type} (r : Reconciler Q A)
    {b : Build} {c : Condition} (h : b.Terminal c) {e : PipelineEvent} (he : e ≠ .accepted)
    {xs : List (Exchange Q A)} {out : Build × Except Failure Transition} :
    (r.recordEvent b e).Ends xs out ↔ xs = [] ∧ out = (b, .ok (.skipped c.skipReason)) := by
  rw [ends_recordEvent_iff]
  simp only [Build.recordEvent_of_finished _ _ he h.finished?_eq, exists_const]

namespace Build
variable {b b' : Build} {c : Condition}

/-- As long as the generation of a build stays, a first completion that is true or false for it
stays to the letter, and so does the image. Every event of a step or of completion is skipped for
the reason that this completion gives, without a call. -/
theorem completion_of_served (hc : b.conditions.find? .completed = some c)
    (hs : c.status = .holds ∨ c.status = .fails) (hg : c.observedGeneration = b.generation)
    (h : Relation.ReflTransGen Served b b') :
    b'.conditions.find? .completed = some c ∧
    b'.status.map BuildStatus.imageStatus = b.status.map BuildStatus.imageStatus ∧
    ∀ e : PipelineEvent, e ≠ .accepted →
      (∀ now later, b'.recordEvent e now later = (b', .skipped c.skipReason)) ∧
      ∀ (Q : Type) (A : Q → Type) (r : Reconciler Q A) (xs : List (Exchange Q A))
        (out : Build × Except Failure Transition), (r.recordEvent b' e).Ends xs out ↔
          xs = [] ∧ out = (b', .ok (.skipped c.skipReason)) := by
  have hd : c.status ≠ .unknown := by rcases hs with hs | hs <;> simp [hs]
  have hb : b.Terminal c := ⟨hc, hg, hd⟩
  have hi : b'.Terminal c ∧ b'.currentStatus.imageStatus = b.currentStatus.imageStatus := by
    induction h with
    | refl => exact ⟨hb, rfl⟩
    | tail _ hs ih =>
      obtain ⟨ht, hi⟩ := ih.1.served hs
      exact ⟨ht, hi.trans ih.2⟩
  obtain ⟨ht, hi⟩ := hi
  refine ⟨ht.found, ?_, fun e he => ⟨?_, ?_⟩⟩
  · rw [status_of_find? ht.found, status_of_find? hc]
    exact congrArg some hi
  · intro now later
    exact recordEvent_of_finished now later he ht.finished?_eq
  · intro Q A r xs out
    exact r.ends_recordEvent_of_terminal ht he

/-- A failed completion in a list that was not written here: a type from outside the vocabulary
stands before it, and a second completion after it. -/
def halted : Build := { checkout with
  status := some {
    conditions := [⟨"Queued", .holds, "Queued", "", 1, .epoch⟩,
      ⟨"Completed", .fails, "BuildFailed", "", 1, .epoch⟩,
      ⟨"Completed", .holds, "BuildCompleted", "", 1, .epoch⟩]
    imageStatus := ⟨"registry/app:0"⟩ } }

/-- Surroundings that let every status through and interrupt every other call. -/
def statusOnly : Surroundings Unit Call Call.Answer where
  cancelled := fun _ => false
  now := fun _ => .epoch
  answer := fun
    | .cluster (.patchStatus ..), s => (.settled (.ok ()), s)
    | _, s => (.interrupted, s)

/-- `halted` after its pipeline was accepted once more. -/
def haltedAgain : Build :=
  (((Operator.reconciler {}).recordEvent halted .accepted).run statusOnly ()).result.1

theorem completion_of_halted :
    halted.conditions.find? .completed =
      some ⟨"Completed", .fails, "BuildFailed", "", 1, .epoch⟩ ∧
    Relation.ReflTransGen Served halted haltedAgain ∧ haltedAgain ≠ halted ∧
    haltedAgain.recordEvent (.succeeded imageOutput) .epoch .epoch =
      (haltedAgain, .skipped .pipelineFailed) := by
  have hs : Relation.ReflTransGen Served halted haltedAgain :=
    .single (.event (Operator.reconciler {}) (Pass.ends_run statusOnly _ ()))
  refine ⟨by decide, hs, by decide, ?_⟩
  exact ((completion_of_served rfl (Or.inr rfl) rfl hs).2.2 (.succeeded imageOutput)
    (by decide)).1 .epoch .epoch

end Build
end BuildOperator
