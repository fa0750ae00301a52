import BuildOperator.Proofs.Mark
/-!
# What a generation shows

A mark is answered by what stands for the generation of the build, and it writes for that generation
only. Two builds that show the same for their generation are therefore marked alike, whatever else
their lists of conditions hold and in which order, and whatever their clocks read.
-/
namespace BuildOperator

/-- Conditions that differ in nothing but their generations and times. -/
structure Condition.Agrees (c d : Condition) : Prop where
  status : c.status = d.status
  reason : c.reason = d.reason
  message : c.message = d.message

theorem Condition.Shows.agrees {c d : Condition} {f : Finding} (hc : c.Shows f) (hd : d.Shows f) :
    c.Agrees d :=
  ⟨hc.status.trans hd.status.symm, hc.reason.trans hd.reason.symm,
    hc.message.trans hd.message.symm⟩

namespace Build
variable {b b₁ b₂ : Build} {now₁ later₁ now₂ later₂ : Timestamp}

/-- Two builds show the same for their generation: of each type a condition for it that agrees, or
none for it in either. -/
structure SameView (b₁ b₂ : Build) : Prop where
  generation : b₁.generation = b₂.generation
  current : ∀ t, Option.Rel Condition.Agrees (b₁.current? t) (b₂.current? t)

namespace SameView

theorem standing?_eq (h : b₁.SameView b₂) (t : ConditionType) :
    b₁.standing? t = b₂.standing? t := by
  have hc := h.current t
  unfold standing?
  generalize b₁.current? t = c, b₂.current? t = d at hc ⊢
  cases hc with
  | none => rfl
  | some ha => exact congrArg some ha.status

theorem finished?_eq (h : b₁.SameView b₂) : b₁.finished? = b₂.finished? :=
  finished?_congr (h.standing?_eq .completed)

theorem isCompleted_eq (h : b₁.SameView b₂) : b₁.isCompleted = b₂.isCompleted := by
  unfold isCompleted
  rw [holds_eq, holds_eq, h.standing?_eq]

theorem artifactPending_eq (h : b₁.SameView b₂) : b₁.artifactPending = b₂.artifactPending := by
  unfold artifactPending
  rw [h.isCompleted_eq, holds_eq, holds_eq, h.standing?_eq]

theorem record (h : b₁.SameView b₂) (t : ConditionType) (st : ConditionStatus) (remark : Remark)
    (now₁ now₂ : Timestamp) :
    (b₁.record t st remark now₁).SameView (b₂.record t st remark now₂) where
  generation := h.generation
  current := by
    intro t'
    by_cases ht : t' = t
    · subst ht
      obtain ⟨c, hc, hs₁⟩ := (shows_record b₁ t' st remark now₁).current?_eq
      obtain ⟨d, hd, hs₂⟩ := (shows_record b₂ t' st remark now₂).current?_eq
      have hf : b₁.finding t' st remark = b₂.finding t' st remark := by
        simp only [finding, h.generation]
      rw [finding_record] at hs₁ hs₂
      rw [hc, hd]
      exact .some (hs₁.agrees (hf ▸ hs₂))
    · rw [current?_congr (find?_record_of_ne ht) (generation_record ..),
        current?_congr (find?_record_of_ne ht) (generation_record ..)]
      exact h.current t'

theorem recordImage (h : b₁.SameView b₂) (image : String) :
    (b₁.recordImage image).SameView (b₂.recordImage image) where
  generation := h.generation
  current := by
    intro t
    rw [current?_congr (congrArg (Conditions.find? · t) (conditions_recordImage b₁ image)) rfl,
      current?_congr (congrArg (Conditions.find? · t) (conditions_recordImage b₂ image)) rfl]
    exact h.current t

end SameView

/-- Two builds are left with the same answer and the same view, and with one image if they had one
image before. -/
structure Alike (b₁ b₂ : Build) (out₁ out₂ : Build × Transition) : Prop where
  answer : out₁.2 = out₂.2
  view : out₁.1.SameView out₂.1
  image : b₁.image? = b₂.image? → out₁.1.image? = out₂.1.image?

theorem SameView.alike (h : b₁.SameView b₂) (answer : Transition) :
    Alike b₁ b₂ (b₁, answer) (b₂, answer) := ⟨rfl, h, id⟩

theorem SameView.alike_record (h : b₁.SameView b₂) (t : ConditionType) (st : ConditionStatus)
    (remark : Remark) (now₁ now₂ : Timestamp) : Alike b₁ b₂
      (b₁.record t st remark now₁, .recorded) (b₂.record t st remark now₂, .recorded) where
  answer := rfl
  view := h.record t st remark now₁ now₂
  image := by
    intro hi
    rwa [image?_record, image?_record]

theorem SameView.alike_mark (h : b₁.SameView b₂) (m : Mark) (now₁ later₁ now₂ later₂ : Timestamp) :
    Alike b₁ b₂ (b₁.mark m now₁ later₁) (b₂.mark m now₂ later₂) := by
  have hm := effect_mark b₁ m now₁ later₁
  generalize b₁.mark m now₁ later₁ = out at hm ⊢
  -- What stands on the one build stands on the other, so that the same equation applies to it.
  cases hm with
  | accepted => exact h.alike_record _ _ _ now₁ now₂
  | finished he hf =>
    rw [mark, recordEvent_of_finished now₂ later₂ he (h.finished?_eq ▸ hf)]
    exact h.alike _
  | stepSucceeded hf step =>
    rw [mark, recordEvent_stepSucceeded now₂ later₂ (h.finished?_eq ▸ hf)]
    exact h.alike_record _ _ _ now₁ now₂
  | stepFailed hf step =>
    rw [mark, recordEvent_stepFailed now₂ later₂ (h.finished?_eq ▸ hf)]
    refine ⟨rfl, (h.record _ _ _ now₁ now₂).record _ _ _ later₁ later₂, fun hi => ?_⟩
    simpa using hi
  | image hf hi =>
    rw [mark, recordEvent_image now₂ later₂ (h.finished?_eq ▸ hf) hi]
    refine ⟨rfl, (h.recordImage _).record _ _ _ now₁ now₂, fun _ => ?_⟩
    exact image?_congr rfl
  | imageMissing hf hi =>
    rw [mark, recordEvent_imageMissing now₂ later₂ (h.finished?_eq ▸ hf) hi]
    exact h.alike_record _ _ _ now₁ now₂
  | artifact hc =>
    rw [mark, recordArtifact_of_completed now₂ (h.standing?_eq _ ▸ hc)]
    exact h.alike_record _ _ _ now₁ now₂
  | notCompleted hc =>
    rw [mark, recordArtifact_of_not_completed now₂ (h.standing?_eq _ ▸ hc)]
    exact h.alike _
  | deployed ha | notDeployed ha =>
    rw [mark, recordDeployment_of_artifact now₂ (h.standing?_eq _ ▸ ha)]
    exact h.alike_record _ _ _ now₁ now₂
  | noArtifact ha succeeded =>
    rw [mark, recordDeployment_of_no_artifact now₂ (h.standing?_eq _ ▸ ha)]
    exact h.alike _

theorem image?_of_recorded {output : PipelineOutput} {image : String}
    (hi : output.image? = some image) (now later : Timestamp)
    (hr : (b.recordEvent (.succeeded output) now later).2 = .recorded) :
    (b.recordEvent (.succeeded output) now later).1.image? = some image := by
  cases hf : b.finished? with
  | some reason =>
    rw [recordEvent_of_finished now later (by simp) hf] at hr
    cases hr
  | none =>
    rw [recordEvent_image now later hf hi]
    exact image?_eq_some_iff.mpr ⟨rfl, PipelineOutput.image?_ne_empty hi⟩

/-- A mark as it is made, with what the clock reads meanwhile. -/
structure Marking where
  mark : Mark
  now : Timestamp
  later : Timestamp
  deriving DecidableEq

def make (b : Build) (m : Marking) : Build × Transition := b.mark m.mark m.now m.later

/-- The build after marks, one after the other. -/
def makeAll (b : Build) (ms : List Marking) : Build := ms.foldl (fun b m => (b.make m).1) b

/-- What each of the marks is answered. -/
def answers (b : Build) : List Marking → List Transition
  | [] => []
  | m :: ms => (b.make m).2 :: (b.make m).1.answers ms

section
variable (b : Build) (m : Marking) (ms ms' : List Marking)

@[simp] theorem makeAll_nil : b.makeAll [] = b := rfl

@[simp] theorem makeAll_cons : b.makeAll (m :: ms) = (b.make m).1.makeAll ms := rfl

@[simp] theorem makeAll_append : b.makeAll (ms ++ ms') = (b.makeAll ms).makeAll ms' :=
  List.foldl_append

end

theorem SameView.makeAll (h : b₁.SameView b₂) {ms₁ ms₂ : List Marking}
    (hm : ms₁.map Marking.mark = ms₂.map Marking.mark) :
    (b₁.makeAll ms₁).SameView (b₂.makeAll ms₂) ∧ b₁.answers ms₁ = b₂.answers ms₂ ∧
      (b₁.image? = b₂.image? → (b₁.makeAll ms₁).image? = (b₂.makeAll ms₂).image?) := by
  induction ms₁ generalizing b₁ b₂ ms₂ with
  | nil =>
    obtain rfl : ms₂ = [] := List.map_eq_nil_iff.mp hm.symm
    exact ⟨h, rfl, id⟩
  | cons m₁ ms₁ ih =>
    obtain ⟨m₂, ms₂, rfl, he, hs⟩ := List.map_eq_cons_iff.mp hm.symm
    have ha : Alike b₁ b₂ (b₁.make m₁) (b₂.make m₂) := by
      unfold make
      rw [he]
      exact h.alike_mark _ _ _ _ _
    obtain ⟨hv, hr, hi⟩ := ih ha.view hs.symm
    refine ⟨hv, ?_, fun h => hi (ha.image h)⟩
    rw [answers, answers, ha.answer, hr]

/-- From a recorded success with an image on, both builds have the same image. -/
theorem SameView.image?_makeAll (h : b₁.SameView b₂) {earlier later ms₂ : List Marking}
    {m : Marking} {output : PipelineOutput} {image : String}
    (hm : (earlier ++ m :: later).map Marking.mark = ms₂.map Marking.mark)
    (he : m.mark = .event (.succeeded output)) (hi : output.image? = some image)
    (hr : ((b₁.makeAll earlier).make m).2 = .recorded) :
    (b₁.makeAll (earlier ++ m :: later)).image? = (b₂.makeAll ms₂).image? := by
  rw [List.map_append] at hm
  obtain ⟨earlier₂, rest, rfl, hearlier, hrest⟩ := List.map_eq_append_iff.mp hm.symm
  obtain ⟨m₂, later₂, rfl, hm₂, hlater⟩ := List.map_eq_cons_iff.mp hrest
  have ha : Alike (b₁.makeAll earlier) (b₂.makeAll earlier₂) ((b₁.makeAll earlier).make m)
      ((b₂.makeAll earlier₂).make m₂) := by
    unfold make
    rw [hm₂]
    exact (h.makeAll hearlier.symm).1.alike_mark _ _ _ _ _
  have hr₂ : ((b₂.makeAll earlier₂).make m₂).2 = .recorded := ha.answer ▸ hr
  unfold make at hr hr₂
  rw [hm₂] at hr₂
  rw [he] at hr hr₂
  have hsame : ((b₁.makeAll earlier).make m).1.image? =
      ((b₂.makeAll earlier₂).make m₂).1.image? := by
    unfold make
    rw [hm₂, he]
    exact (image?_of_recorded hi m.now m.later hr).trans
      (image?_of_recorded hi m₂.now m₂.later hr₂).symm
  rw [makeAll_append, makeAll_append, makeAll_cons, makeAll_cons]
  exact (ha.view.makeAll hlater.symm).2.2 hsame

/-- Builds that show the same for their generation, marked in the same order, give the same answers,
go on to show the same, and agree on whether they are completed and whether their artifact is
pending. Once a success with an image is recorded, they have one image. -/
theorem same_view_of_marks (h : b₁.SameView b₂) (ms₁ ms₂ : List Marking)
    (hm : ms₁.map Marking.mark = ms₂.map Marking.mark) :
    b₁.answers ms₁ = b₂.answers ms₂ ∧
    (b₁.makeAll ms₁).SameView (b₂.makeAll ms₂) ∧
    (b₁.makeAll ms₁).isCompleted = (b₂.makeAll ms₂).isCompleted ∧
    (b₁.makeAll ms₁).artifactPending = (b₂.makeAll ms₂).artifactPending ∧
    ∀ earlier m later output image, ms₁ = earlier ++ m :: later →
      m.mark = .event (.succeeded output) → output.image? = some image →
      ((b₁.makeAll earlier).make m).2 = .recorded →
        (b₁.makeAll ms₁).image? = (b₂.makeAll ms₂).image? := by
  obtain ⟨hv, hr, _⟩ := h.makeAll hm
  refine ⟨hr, hv, hv.isCompleted_eq, hv.artifactPending_eq, ?_⟩
  rintro earlier m later output image rfl he hi hrec
  exact h.image?_makeAll hm he hi hrec

/-- A build whose generation is new and that has no status. -/
def fresh : Build := checkout.withGeneration (some 2)

/-- A build of the same generation with a failure of the one before and conditions that do not
count: the second of a type, and one that is ahead of the build. -/
def aged : Build := { fresh with
  status := some {
    conditions := [⟨"Completed", .fails, "BuildFailed", "", 1, .epoch⟩,
      ⟨"Completed", .holds, "BuildCompleted", "", 2, .epoch⟩,
      ⟨"DeployableArtifactCreated", .holds, "ArtifactCreationSuccessful", "", 3, .epoch⟩]
    imageStatus := ⟨"registry/app:0"⟩ } }

def morning : Timestamp := { Timestamp.epoch with hour := 6, hour_lt := by decide }

/-- A pipeline that succeeds, and its artifact. -/
def delivered (now : Timestamp) : List Marking :=
  [.event .accepted, .event (.succeeded imageOutput), .artifact].map fun m => ⟨m, now, now⟩

theorem same_view_of_aged : aged.SameView fresh ∧
    (delivered .epoch).map Marking.mark = (delivered morning).map Marking.mark ∧
    aged.image? ≠ fresh.image? ∧
    aged.answers (delivered .epoch) = fresh.answers (delivered morning) ∧
    (aged.makeAll (delivered .epoch)).image? = (fresh.makeAll (delivered morning)).image? := by
  have hv : aged.SameView fresh := ⟨rfl, fun t => by cases t <;> exact .none⟩
  have hm : (delivered .epoch).map Marking.mark = (delivered morning).map Marking.mark := rfl
  obtain ⟨hr, _, _, _, hi⟩ := same_view_of_marks hv _ _ hm
  exact ⟨hv, hm, by decide, hr,
    hi ((delivered .epoch).take 1) _ ((delivered .epoch).drop 2) imageOutput "registry/app:1"
      rfl rfl (by decide) (by decide)⟩

end Build
end BuildOperator
