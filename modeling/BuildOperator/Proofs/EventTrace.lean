import BuildOperator.Proofs.Mark
import Mathlib.Data.List.Induction
import Mathlib.Logic.Function.Basic
/-!
# What a sequence of events leaves behind

The status of a build after any sequence of events, told from the sequence alone: the first event
that fails a step or ends the pipeline gives the verdict, steps that succeeded before it are shown
as such, and whatever comes after it is skipped. The order of the other events does not matter.
-/
namespace BuildOperator

/-- How the completion of a pipeline is decided. -/
inductive Verdict where
  | stepFailed (step : Step)
  | imageMissing
  | completed (image : String)
  deriving DecidableEq

namespace Verdict

def status : Verdict → ConditionStatus
  | .stepFailed _ | .imageMissing => .fails
  | .completed _ => .holds

def remark : Verdict → Remark
  | .stepFailed _ => .stepFailed
  | .imageMissing => .imageMissing
  | .completed _ => .completed

def image? : Verdict → Option String
  | .stepFailed _ | .imageMissing => none
  | .completed image => some image

/-- Why events after a verdict are skipped. -/
def skipReason : Verdict → SkipReason
  | .stepFailed _ | .imageMissing => .pipelineFailed
  | .completed _ => .alreadyCompleted

end Verdict

namespace PipelineEvent

def verdict? : PipelineEvent → Option Verdict
  | .accepted | .stepSucceeded _ => none
  | .stepFailed step => some (.stepFailed step)
  | .succeeded output =>
    match output.image? with
    | some image => some (.completed image)
    | none => some .imageMissing

/-- The verdict of the first event that gives one. -/
def firstVerdict? (es : List PipelineEvent) : Option Verdict := es.findSome? verdict?

/-- The events before the one that gives the verdict. -/
def undecided (es : List PipelineEvent) : List PipelineEvent :=
  es.takeWhile fun e => e.verdict?.isNone

/-- What events leave behind for a step: its failure, if that was the verdict, or else its success
before the verdict. -/
def stepTrace? (es : List PipelineEvent) (step : Step) : Option (ConditionStatus × Remark) :=
  if firstVerdict? es = some (.stepFailed step) then some (.fails, step.failure)
  else if .stepSucceeded step ∈ undecided es then some (.holds, step.success)
  else none

/-- What events leave behind for a type, if they touch it at all. -/
def trace? (es : List PipelineEvent) : ConditionType → Option (ConditionStatus × Remark)
  | .initialized => if .accepted ∈ es then some (.holds, .initialized) else none
  | .cloneSucceeded => stepTrace? es .clone
  | .buildSucceeded => stepTrace? es .build
  | .pushSucceeded => stepTrace? es .push
  | .completed => (firstVerdict? es).map fun v => (v.status, v.remark)
  | .deployableArtifactCreated | .deploymentApplied => none

/-- What an event is answered after these. -/
def response (earlier : List PipelineEvent) (e : PipelineEvent) : Transition :=
  match firstVerdict? earlier with
  | none => .recorded
  | some v => if e = .accepted then .recorded else .skipped v.skipReason

section
variable (es : List PipelineEvent) (e : PipelineEvent)

theorem firstVerdict?_concat : firstVerdict? (es ++ [e]) = (firstVerdict? es).or e.verdict? := by
  simp [firstVerdict?, List.findSome?_append]

theorem mem_undecided_concat (x : PipelineEvent) (hx : x.verdict? = none) :
    x ∈ undecided (es ++ [e]) ↔ x ∈ undecided es ∨ (firstVerdict? es = none ∧ x = e) := by
  -- On the list itself: what is taken ends at its first verdict.
  induction es with
  | nil =>
    cases he : e.verdict? with
    | none => simp [undecided, firstVerdict?, he]
    | some v =>
      have hne : x ≠ e := fun h => by simp [h, he] at hx
      simp [undecided, firstVerdict?, he, hne]
  | cons d es ih =>
    cases hd : d.verdict? with
    | none =>
      simp only [undecided, firstVerdict?] at ih
      simp [undecided, firstVerdict?, hd, ih, or_assoc]
    | some v => simp [undecided, firstVerdict?, hd]

theorem stepTrace?_concat (s : Step) : stepTrace? (es ++ [e]) s =
    if firstVerdict? es = none ∧ e = .stepFailed s then some (.fails, s.failure)
    else if firstVerdict? es = none ∧ e = .stepSucceeded s then some (.holds, s.success)
    else stepTrace? es s := by
  have hm := mem_undecided_concat es e (.stepSucceeded s) rfl
  unfold stepTrace?
  rw [firstVerdict?_concat]
  cases hv : firstVerdict? es with
  | some v => simp [hm, hv]
  | none =>
    cases e with
    | accepted => simp [hm, hv, verdict?]
    | stepSucceeded s' =>
      by_cases hs : s' = s
      · subst hs
        simp [hm, hv, verdict?]
      · simp [hm, hv, hs, Ne.symm hs, verdict?]
    | stepFailed s' =>
      by_cases hs : s' = s
      · simp [hs, verdict?]
      · simp [hm, hv, hs, verdict?]
    | succeeded output => cases ho : output.image? <;> simp [hm, hv, ho, verdict?]

theorem trace?_concat_accepted : trace? (es ++ [.accepted]) =
    Function.update (trace? es) .initialized (some (.holds, .initialized)) := by
  funext t
  cases t <;> simp [trace?, stepTrace?_concat, firstVerdict?_concat, verdict?]

theorem trace?_concat_stepSucceeded (h : firstVerdict? es = none) (s : Step) :
    trace? (es ++ [.stepSucceeded s]) =
      Function.update (trace? es) s.conditionType (some (.holds, s.success)) := by
  funext t
  cases t <;> cases s <;>
    simp [trace?, stepTrace?_concat, firstVerdict?_concat, verdict?, h, Step.conditionType]

theorem trace?_concat_stepFailed (h : firstVerdict? es = none) (s : Step) :
    trace? (es ++ [.stepFailed s]) =
      Function.update (Function.update (trace? es) s.conditionType (some (.fails, s.failure)))
        .completed (some (.fails, .stepFailed)) := by
  funext t
  cases t <;> cases s <;>
    simp [trace?, stepTrace?_concat, firstVerdict?_concat, verdict?, h, Step.conditionType,
      Verdict.status, Verdict.remark]

theorem trace?_concat_succeeded (h : firstVerdict? es = none) {output : PipelineOutput}
    {v : Verdict} (hv : verdict? (.succeeded output) = some v) :
    trace? (es ++ [.succeeded output]) =
      Function.update (trace? es) .completed (some (v.status, v.remark)) := by
  funext t
  cases t <;> simp [trace?, stepTrace?_concat, firstVerdict?_concat, hv, h]

theorem trace?_concat_of_verdict {v : Verdict} (h : firstVerdict? es = some v)
    (he : e ≠ .accepted) : trace? (es ++ [e]) = trace? es := by
  funext t
  cases t <;> simp [trace?, stepTrace?_concat, firstVerdict?_concat, h, he.symm]

end

@[simp] theorem trace?_nil : trace? [] = fun _ => none := by
  funext t
  cases t <;> rfl

end PipelineEvent

namespace Build
open PipelineEvent
variable {b b' : Build} {trace : ConditionType → Option (ConditionStatus × Remark)}
  {image? : Option String} {es : List PipelineEvent}

/-- A build is as before, apart from what was left behind on it. -/
structure Traced (b b' : Build) (trace : ConditionType → Option (ConditionStatus × Remark))
    (image? : Option String) : Prop where
  metadata : b'.metadata = b.metadata
  spec : b'.spec = b.spec
  shown : ∀ t st remark, trace t = some (st, remark) → b'.Shows t st remark
  kept : ∀ t, trace t = none → b'.conditions.find? t = b.conditions.find? t
  others : ∀ p : String → Bool, (∀ t, trace t ≠ none → p t.name = false) →
    b'.conditions.filter (fun c => p c.type) = b.conditions.filter fun c => p c.type
  image : b'.currentStatus.imageStatus = image?.elim b.currentStatus.imageStatus ImageStatus.mk

namespace Traced

theorem refl (b : Build) : b.Traced b (fun _ => none) none where
  metadata := rfl
  spec := rfl
  shown := fun _ _ _ h => nomatch h
  kept := fun _ _ => rfl
  others := fun _ _ => rfl
  image := rfl

theorem record (h : b.Traced b' trace image?) (t : ConditionType) (st : ConditionStatus)
    (remark : Remark) (now : Timestamp) : b.Traced (b'.record t st remark now)
      (Function.update trace t (some (st, remark))) image? where
  metadata := h.metadata
  spec := h.spec
  shown := by
    intro t' st' remark' ht
    by_cases he : t' = t
    · subst he
      obtain ⟨rfl, rfl⟩ : st = st' ∧ remark = remark' := by simpa using ht
      exact shows_record b' t' st remark now
    · rw [Function.update_of_ne he] at ht
      exact (h.shown t' st' remark' ht).record_of_ne he _ _ _
  kept := by
    intro t' ht
    have he : t' ≠ t := fun he => by simp [he] at ht
    rw [Function.update_of_ne he] at ht
    rw [find?_record_of_ne he, h.kept t' ht]
  others := by
    intro p hp
    have hpt : p t.name = false := hp t (by simp)
    rw [conditions_record, Conditions.filter_record _ _ _ hpt]
    refine h.others p fun t' ht' => ?_
    by_cases he : t' = t
    · rw [he, hpt]
    · exact hp t' (by rwa [Function.update_of_ne he])
  image := h.image

theorem recordImage (h : b.Traced b' trace image?) (image : String) :
    b.Traced (b'.recordImage image) trace (some image) where
  metadata := h.metadata
  spec := h.spec
  shown := fun t st remark ht => (h.shown t st remark ht).recordImage image
  kept := by
    intro t ht
    rw [conditions_recordImage, h.kept t ht]
  others := by
    intro p hp
    rw [conditions_recordImage, h.others p hp]
  image := rfl

theorem generation_eq (h : b.Traced b' trace image?) : b'.generation = b.generation :=
  congrArg (fun m : Metadata => m.generation.getD 0) h.metadata

theorem finished?_eq (h : b.Traced b' (trace? es) image?) (ho : b.finished? = none) :
    b'.finished? = (firstVerdict? es).map Verdict.skipReason := by
  cases hv : firstVerdict? es with
  | none =>
    -- The completion is still the one that the build had.
    have hk := h.kept .completed (by simp [trace?, hv])
    exact (finished?_congr (standing?_congr hk h.generation_eq)).trans ho
  | some v =>
    have hs := (h.shown .completed v.status v.remark (by simp [trace?, hv])).standing?_eq
    cases v with
    | stepFailed s => exact finished?_of_fails hs
    | imageMissing => exact finished?_of_fails hs
    | completed image => exact finished?_of_holds hs

/-- One more event leaves behind what it should, and is answered as it should. -/
theorem deliver (h : b.Traced b' (trace? es) ((firstVerdict? es).bind Verdict.image?))
    (ho : b.finished? = none) (d : Delivery) :
    b.Traced (b'.deliver d).1 (trace? (es ++ [d.event]))
        ((firstVerdict? (es ++ [d.event])).bind Verdict.image?) ∧
      (b'.deliver d).2 = response es d.event := by
  obtain ⟨e, now, later⟩ := d
  have ht := h.finished?_eq ho
  have hd := effect_event b' e now later
  have hr (hv : firstVerdict? es = none) : response es e = .recorded := by simp [response, hv]
  unfold Build.deliver
  simp only [firstVerdict?_concat]
  generalize b'.recordEvent e now later = out at hd ⊢
  cases hd with
  | accepted =>
    rw [trace?_concat_accepted]
    refine ⟨by simpa [verdict?] using h.record _ _ _ _, ?_⟩
    cases hv : firstVerdict? es <;> simp [response, hv]
  | finished he hf =>
    -- A verdict was given, after which only acceptance leaves anything behind.
    obtain ⟨v, hv, rfl⟩ := Option.map_eq_some_iff.mp (ht.symm.trans hf)
    rw [hv] at h
    rw [trace?_concat_of_verdict es e hv he, hv]
    exact ⟨h, by simp [response, hv, he]⟩
  | stepSucceeded hf s =>
    have hv := Option.map_eq_none_iff.mp (ht.symm.trans hf)
    rw [hv] at h
    rw [trace?_concat_stepSucceeded es hv, hv, hr hv]
    exact ⟨h.record _ _ _ _, rfl⟩
  | stepFailed hf s =>
    have hv := Option.map_eq_none_iff.mp (ht.symm.trans hf)
    rw [hv] at h
    rw [trace?_concat_stepFailed es hv, hv, hr hv]
    exact ⟨(h.record _ _ _ _).record _ _ _ _, rfl⟩
  | @image output image hf hi =>
    have hv := Option.map_eq_none_iff.mp (ht.symm.trans hf)
    have hw : verdict? (.succeeded output) = some (.completed image) := by simp [verdict?, hi]
    rw [hv] at h
    rw [trace?_concat_succeeded es hv hw, hv, hw, hr hv]
    exact ⟨(h.recordImage image).record _ _ _ _, rfl⟩
  | @imageMissing output hf hi =>
    have hv := Option.map_eq_none_iff.mp (ht.symm.trans hf)
    have hw : verdict? (.succeeded output) = some .imageMissing := by simp [verdict?, hi]
    rw [hv] at h
    rw [trace?_concat_succeeded es hv hw, hv, hw, hr hv]
    exact ⟨h.record _ _ _ _, rfl⟩

end Traced

theorem traced_deliverAll (ho : b.finished? = none) (ds : List Delivery) :
    b.Traced (b.deliverAll ds) (trace? (ds.map Delivery.event))
      ((firstVerdict? (ds.map Delivery.event)).bind Verdict.image?) := by
  induction ds using List.reverseRecOn with
  | nil => simpa [firstVerdict?] using Traced.refl b
  | append_singleton ds d ih =>
    rw [List.map_append, deliverAll_concat]
    exact (ih.deliver ho d).1

theorem finished?_eq_none_of_unknown
    (h : ∀ c, b.conditions.find? .completed = some c → c.observedGeneration = b.generation →
      c.status = .unknown) : b.finished? = none := by
  rw [finished?_eq_none_iff]
  unfold standing? current?
  cases hc : b.conditions.find? .completed with
  | none => simp
  | some c =>
    by_cases hg : c.observedGeneration = b.generation
    · simp [Option.filter, hg, h c hc hg]
    · simp [Option.filter, hg]

/-- On a build whose pipeline has not finished, a sequence of events leaves behind its trace, and
each event is answered by the verdict before it. -/
theorem trace_of_deliverAll
    (h : ∀ c, b.conditions.find? .completed = some c → c.observedGeneration = b.generation →
      c.status = .unknown) (ds : List Delivery) :
    b.Traced (b.deliverAll ds) (trace? (ds.map Delivery.event))
        ((firstVerdict? (ds.map Delivery.event)).bind Verdict.image?) ∧
      ∀ earlier d later, ds = earlier ++ d :: later →
        ((b.deliverAll earlier).deliver d).2 = response (earlier.map Delivery.event) d.event := by
  have ho := finished?_eq_none_of_unknown h
  refine ⟨traced_deliverAll ho ds, ?_⟩
  intro earlier d _ _
  exact ((traced_deliverAll ho earlier).deliver ho d).2

/-- A second generation, whose first one was completed with an image. -/
def renewed : Build := { checkout with
  metadata := { checkout.metadata with generation := some 2 }
  status := some {
    conditions := [⟨"Queued", .holds, "Queued", "", 1, .epoch⟩,
      ⟨"Completed", .holds, "BuildCompleted", "", 1, .epoch⟩]
    imageStatus := ⟨"registry/app:0"⟩ } }

/-- A clone that is reported as done, then as failed, before its pipeline is said to succeed. -/
def contradiction : List Delivery :=
  [⟨.stepSucceeded .clone, .epoch, .epoch⟩, ⟨.stepFailed .clone, .epoch, .epoch⟩,
    ⟨.succeeded imageOutput, .epoch, .epoch⟩]

theorem trace_of_contradiction :
    (∀ c, renewed.conditions.find? .completed = some c →
      c.observedGeneration = renewed.generation → c.status = .unknown) ∧
    (renewed.deliverAll contradiction).Shows .cloneSucceeded .fails Step.clone.failure ∧
    (renewed.deliverAll contradiction).currentStatus.imageStatus = ⟨"registry/app:0"⟩ ∧
    ((renewed.deliverAll (contradiction.take 2)).deliver
      ⟨.succeeded imageOutput, .epoch, .epoch⟩).2 = .skipped .pipelineFailed := by
  have hc : ∀ c, renewed.conditions.find? .completed = some c →
      c.observedGeneration = renewed.generation → c.status = .unknown := by
    intro c hf hg
    cases hf
    exact absurd hg (by decide)
  obtain ⟨ht, hr⟩ := trace_of_deliverAll hc contradiction
  exact ⟨hc, ht.shown .cloneSucceeded .fails Step.clone.failure (by decide), ht.image,
    hr (contradiction.take 2) _ [] rfl⟩

end Build
end BuildOperator
