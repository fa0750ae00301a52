import BuildOperator.Proofs.Record
/-!
# Marks on a build

A mark is one change of a build's progress: an event of its pipeline, its artifact, or the outcome
of its deployment. What each mark does is said once here, for a pipeline that has finished and for
one that has not.
-/
namespace BuildOperator

theorem PipelineOutput.image?_ne_empty {o : PipelineOutput} {image : String}
    (h : o.image? = some image) : image ≠ "" := by
  simpa using (Option.filter_eq_some_iff.mp h).2

inductive Mark where
  | event (event : PipelineEvent)
  | artifact
  | deployment (succeeded : Bool)
  deriving DecidableEq

/-- The types of the conditions that a mark may write. -/
def Mark.types : Mark → List ConditionType
  | .event .accepted => [.initialized]
  | .event (.stepSucceeded step) => [step.conditionType]
  | .event (.stepFailed step) => [step.conditionType, .completed]
  | .event (.succeeded _) => [.completed]
  | .artifact => [.deployableArtifactCreated]
  | .deployment _ => [.deploymentApplied]

namespace Build
variable {b b' : Build} {e : PipelineEvent} {reason : SkipReason}

/-- Make a mark. The clock is read twice at most. -/
def mark (b : Build) (m : Mark) (now later : Timestamp) : Build × Transition :=
  match m with
  | .event event => b.recordEvent event now later
  | .artifact => b.recordArtifact now
  | .deployment succeeded => b.recordDeployment succeeded now

theorem finished?_eq_none_iff : b.finished? = none ↔
    b.standing? .completed ≠ some .holds ∧ b.standing? .completed ≠ some .fails := by
  by_cases hf : b.standing? .completed = some .fails
  · simp [finished?, hasFailed, holds_eq, hf]
  · by_cases hc : b.standing? .completed = some .holds
    · simp [finished?, hasFailed, isCompleted, holds_eq, hc]
    · simp [finished?, hasFailed, isCompleted, holds_eq, hf, hc]

theorem finished?_of_fails (h : b.standing? .completed = some .fails) :
    b.finished? = some .pipelineFailed := by
  simp [finished?, hasFailed, holds_eq, h]

theorem finished?_of_holds (h : b.standing? .completed = some .holds) :
    b.finished? = some .alreadyCompleted := by
  simp [finished?, hasFailed, isCompleted, holds_eq, h]

theorem finished?_congr (h : b'.standing? .completed = b.standing? .completed) :
    b'.finished? = b.finished? := by
  unfold finished? hasFailed isCompleted
  simp only [holds_eq, h]

theorem finished?_record_of_ne {t : ConditionType} (ht : t ≠ .completed) (st : ConditionStatus)
    (remark : Remark) (now : Timestamp) :
    (b.record t st remark now).finished? = b.finished? :=
  finished?_congr (standing?_record_of_ne ht.symm)

theorem artifactPending_iff : b.artifactPending = true ↔
    b.standing? .completed = some .holds ∧
      b.standing? .deployableArtifactCreated ≠ some .holds := by
  simp [artifactPending, isCompleted, holds_eq]

section
variable (now later : Timestamp)

theorem recordEvent_of_finished (he : e ≠ .accepted) (h : b.finished? = some reason) :
    b.recordEvent e now later = (b, .skipped reason) := by
  cases e with
  | accepted => exact absurd rfl he
  | stepSucceeded step => simp [recordEvent, recordStepSucceeded, unlessFinished, h]
  | stepFailed step => simp [recordEvent, recordStepFailed, unlessFinished, h]
  | succeeded output => simp [recordEvent, recordSucceeded, unlessFinished, h]

theorem recordEvent_stepSucceeded (h : b.finished? = none) (step : Step) :
    b.recordEvent (.stepSucceeded step) now later =
      (b.record step.conditionType .holds step.success now, .recorded) := by
  simp [recordEvent, recordStepSucceeded, unlessFinished, h]

theorem recordEvent_stepFailed (h : b.finished? = none) (step : Step) :
    b.recordEvent (.stepFailed step) now later =
      ((b.record step.conditionType .fails step.failure now).record .completed .fails
        .stepFailed later, .recorded) := by
  simp [recordEvent, recordStepFailed, unlessFinished, h]

theorem recordEvent_image (h : b.finished? = none) {output : PipelineOutput} {image : String}
    (ho : output.image? = some image) : b.recordEvent (.succeeded output) now later =
      ((b.recordImage image).record .completed .holds .completed now, .recorded) := by
  simp [recordEvent, recordSucceeded, unlessFinished, h, ho]

theorem recordEvent_imageMissing (h : b.finished? = none) {output : PipelineOutput}
    (ho : output.image? = none) : b.recordEvent (.succeeded output) now later =
      (b.record .completed .fails .imageMissing now, .recorded) := by
  simp [recordEvent, recordSucceeded, unlessFinished, h, ho]

theorem recordArtifact_of_completed (h : b.standing? .completed = some .holds) :
    b.recordArtifact now =
      (b.record .deployableArtifactCreated .holds .artifactCreated now, .recorded) := by
  simp [recordArtifact, isCompleted, holds_eq, h]

theorem recordArtifact_of_not_completed (h : b.standing? .completed ≠ some .holds) :
    b.recordArtifact now = (b, .skipped .notCompleted) := by
  simp [recordArtifact, isCompleted, holds_eq, h]

theorem recordDeployment_of_artifact (h : b.standing? .deployableArtifactCreated = some .holds)
    (succeeded : Bool) : b.recordDeployment succeeded now =
      (if succeeded then b.record .deploymentApplied .holds .deployed now
        else b.record .deploymentApplied .fails .notDeployed now, .recorded) := by
  simp [recordDeployment, holds_eq, h]

theorem recordDeployment_of_no_artifact
    (h : b.standing? .deployableArtifactCreated ≠ some .holds) (succeeded : Bool) :
    b.recordDeployment succeeded now = (b, .skipped .noArtifact) := by
  simp [recordDeployment, holds_eq, h]

end

/-- What a mark does, by what stands on the build when it is made. -/
inductive Effect (b : Build) (now later : Timestamp) : Mark → Build × Transition → Prop where
  | accepted : Effect b now later (.event .accepted)
      (b.record .initialized .holds .initialized now, .recorded)
  | finished {e : PipelineEvent} {reason : SkipReason} (he : e ≠ .accepted)
      (hf : b.finished? = some reason) : Effect b now later (.event e) (b, .skipped reason)
  | stepSucceeded (hf : b.finished? = none) (step : Step) :
      Effect b now later (.event (.stepSucceeded step))
        (b.record step.conditionType .holds step.success now, .recorded)
  | stepFailed (hf : b.finished? = none) (step : Step) :
      Effect b now later (.event (.stepFailed step))
        ((b.record step.conditionType .fails step.failure now).record .completed .fails
          .stepFailed later, .recorded)
  | image {output : PipelineOutput} {image : String} (hf : b.finished? = none)
      (hi : output.image? = some image) : Effect b now later (.event (.succeeded output))
        ((b.recordImage image).record .completed .holds .completed now, .recorded)
  | imageMissing {output : PipelineOutput} (hf : b.finished? = none) (hi : output.image? = none) :
      Effect b now later (.event (.succeeded output))
        (b.record .completed .fails .imageMissing now, .recorded)
  | artifact (hc : b.standing? .completed = some .holds) : Effect b now later .artifact
      (b.record .deployableArtifactCreated .holds .artifactCreated now, .recorded)
  | notCompleted (hc : b.standing? .completed ≠ some .holds) :
      Effect b now later .artifact (b, .skipped .notCompleted)
  | deployed (ha : b.standing? .deployableArtifactCreated = some .holds) :
      Effect b now later (.deployment true)
        (b.record .deploymentApplied .holds .deployed now, .recorded)
  | notDeployed (ha : b.standing? .deployableArtifactCreated = some .holds) :
      Effect b now later (.deployment false)
        (b.record .deploymentApplied .fails .notDeployed now, .recorded)
  | noArtifact (ha : b.standing? .deployableArtifactCreated ≠ some .holds) (succeeded : Bool) :
      Effect b now later (.deployment succeeded) (b, .skipped .noArtifact)

theorem effect_event (b : Build) (e : PipelineEvent) (now later : Timestamp) :
    Effect b now later (.event e) (b.recordEvent e now later) := by
  by_cases he : e = .accepted
  · subst he
    exact .accepted
  cases hf : b.finished? with
  | some reason =>
    rw [recordEvent_of_finished now later he hf]
    exact .finished he hf
  | none =>
    cases e with
    | accepted => exact absurd rfl he
    | stepSucceeded step =>
      rw [recordEvent_stepSucceeded now later hf]
      exact .stepSucceeded hf step
    | stepFailed step =>
      rw [recordEvent_stepFailed now later hf]
      exact .stepFailed hf step
    | succeeded output =>
      cases hi : output.image? with
      | some image =>
        rw [recordEvent_image now later hf hi]
        exact .image hf hi
      | none =>
        rw [recordEvent_imageMissing now later hf hi]
        exact .imageMissing hf hi

theorem effect_mark (b : Build) (m : Mark) (now later : Timestamp) :
    Effect b now later m (b.mark m now later) := by
  cases m with
  | event e => exact effect_event b e now later
  | artifact =>
    by_cases hc : b.standing? .completed = some .holds
    · rw [mark, recordArtifact_of_completed now hc]
      exact .artifact hc
    · rw [mark, recordArtifact_of_not_completed now hc]
      exact .notCompleted hc
  | deployment succeeded =>
    by_cases ha : b.standing? .deployableArtifactCreated = some .holds
    · rw [mark, recordDeployment_of_artifact now ha]
      cases succeeded with
      | false => exact .notDeployed ha
      | true => exact .deployed ha
    · rw [mark, recordDeployment_of_no_artifact now ha]
      exact .noArtifact ha succeeded

theorem Effect.eq_of_skipped {now later : Timestamp} {m : Mark}
    (h : Effect b now later m (b', .skipped reason)) : b' = b := by
  cases h with
  | finished | notCompleted | noArtifact => rfl

/-- Every mark is made of records and images: it keeps what each of these keeps. -/
theorem mark_induction {P : Build → Prop}
    (record : ∀ b t st remark now, P b → P (b.record t st remark now))
    (image : ∀ b name, P b → P (b.recordImage name))
    (h : P b) (m : Mark) (now later : Timestamp) : P (b.mark m now later).1 := by
  have hm := effect_mark b m now later
  generalize b.mark m now later = out at hm ⊢
  cases hm with
  | finished | notCompleted | noArtifact => exact h
  | stepFailed => exact record _ _ _ _ _ (record _ _ _ _ _ h)
  | image => exact record _ _ _ _ _ (image _ _ h)
  | accepted | stepSucceeded | imageMissing | artifact | deployed | notDeployed =>
    exact record _ _ _ _ _ h

section
variable (b : Build) (m : Mark) (now later : Timestamp)

@[simp] theorem metadata_mark : (b.mark m now later).1.metadata = b.metadata :=
  mark_induction (P := fun b' => b'.metadata = b.metadata) (fun _ _ _ _ _ h => h)
    (fun _ _ h => h) rfl m now later

@[simp] theorem spec_mark : (b.mark m now later).1.spec = b.spec :=
  mark_induction (P := fun b' => b'.spec = b.spec) (fun _ _ _ _ _ h => h)
    (fun _ _ h => h) rfl m now later

@[simp] theorem generation_mark : (b.mark m now later).1.generation = b.generation := by
  unfold generation
  rw [metadata_mark]

end

theorem find?_mark_of_not_mem (b : Build) {m : Mark} {t : ConditionType} (ht : t ∉ m.types)
    (now later : Timestamp) :
    (b.mark m now later).1.conditions.find? t = b.conditions.find? t := by
  have hm := effect_mark b m now later
  generalize b.mark m now later = out at hm ⊢
  cases hm with
  | finished | notCompleted | noArtifact => rfl
  | stepFailed hf step =>
    simp only [Mark.types, List.mem_cons, List.not_mem_nil, or_false, not_or] at ht
    rw [find?_record_of_ne ht.2, find?_record_of_ne ht.1]
  | image hf hi =>
    rw [find?_record_of_ne (by simpa [Mark.types] using ht), conditions_recordImage]
  | accepted | stepSucceeded | imageMissing | artifact | deployed | notDeployed =>
    exact find?_record_of_ne (by simpa only [Mark.types, List.mem_singleton] using ht)

/-- An event as it is delivered, with what the clock reads meanwhile. -/
structure Delivery where
  event : PipelineEvent
  now : Timestamp
  later : Timestamp
  deriving DecidableEq

def deliver (b : Build) (d : Delivery) : Build × Transition := b.recordEvent d.event d.now d.later

/-- The build after deliveries, one after the other. -/
def deliverAll (b : Build) (ds : List Delivery) : Build := ds.foldl (fun b d => (b.deliver d).1) b

section
variable (b : Build) (d : Delivery) (ds : List Delivery)

@[simp] theorem deliverAll_nil : b.deliverAll [] = b := rfl

@[simp] theorem deliverAll_cons : b.deliverAll (d :: ds) = (b.deliver d).1.deliverAll ds := rfl

@[simp] theorem deliverAll_concat :
    b.deliverAll (ds ++ [d]) = ((b.deliverAll ds).deliver d).1 := by
  simp [deliverAll]

end

/-- A build of which nothing is known yet. -/
def checkout : Build where
  metadata := { name := some "checkout-build-3", space := some "shop", generation := some 1 }
  spec := { project := "shop", component := "checkout", autoDeploy := true }

def imageOutput : PipelineOutput := PipelineOutput.empty.parameter "image" (some "registry/app:1")

end Build
end BuildOperator
