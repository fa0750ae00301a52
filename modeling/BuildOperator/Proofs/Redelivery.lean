import BuildOperator.Proofs.Mark
import Mathlib.Data.List.Induction
/-!
# Redelivered events

An event may be delivered again at any later time, and the build stays as it is, to the times of its
conditions. What carries this: an event that was delivered has left its mark, or the pipeline has
finished since, and no later event undoes that.
-/
namespace BuildOperator.Build
variable {b b' : Build} {e e' : PipelineEvent} {reason : SkipReason}

/-- An event has left its mark, or the end of the pipeline has overtaken it. -/
def Settled (b : Build) : PipelineEvent → Prop
  | .accepted => b.Shows .initialized .holds .initialized
  | .stepSucceeded s =>
    b.Shows s.conditionType .holds s.success ∨ ∃ reason, b.finished? = some reason
  | .stepFailed _ | .succeeded _ => ∃ reason, b.finished? = some reason

theorem settled_of_finished (h : b.finished? = some reason) (he : e ≠ .accepted) : b.Settled e := by
  cases e with
  | accepted => exact absurd rfl he
  | stepSucceeded s => exact Or.inr ⟨reason, h⟩
  | stepFailed s => exact ⟨reason, h⟩
  | succeeded output => exact ⟨reason, h⟩

theorem Settled.recordEvent_eq (h : b.Settled e) (now later : Timestamp) :
    (b.recordEvent e now later).1 = b := by
  have hskip : ∀ reason, b.finished? = some reason → e ≠ .accepted →
      (b.recordEvent e now later).1 = b :=
    fun reason hf he => congrArg Prod.fst (recordEvent_of_finished now later he hf)
  cases e with
  | accepted => exact Shows.record_eq h now
  | stepSucceeded s =>
    cases hf : b.finished? with
    | some reason => exact hskip reason hf (by simp)
    | none =>
      have hs : b.Shows s.conditionType .holds s.success := by simpa [Settled, hf] using h
      rw [recordEvent_stepSucceeded now later hf]
      exact hs.record_eq now
  | stepFailed s =>
    obtain ⟨reason, hf⟩ := h
    exact hskip reason hf (by simp)
  | succeeded output =>
    obtain ⟨reason, hf⟩ := h
    exact hskip reason hf (by simp)

theorem settled_recordEvent (b : Build) (e : PipelineEvent) (now later : Timestamp) :
    (b.recordEvent e now later).1.Settled e := by
  have he := effect_event b e now later
  generalize b.recordEvent e now later = out at he ⊢
  cases he with
  | accepted => exact shows_record b .initialized .holds .initialized now
  | finished he hf => exact settled_of_finished hf he
  | stepSucceeded hf s => exact Or.inl (shows_record b _ _ _ now)
  | stepFailed | imageMissing => exact ⟨_, finished?_of_fails standing?_record_self⟩
  | image => exact ⟨_, finished?_of_holds standing?_record_self⟩

theorem Settled.record (h : b.Settled e) {t : ConditionType} {st : ConditionStatus}
    {remark : Remark} (now : Timestamp) (ht : t ≠ .completed)
    (hi : t = .initialized → st = .holds ∧ remark = .initialized)
    (hs : ∀ s : Step, t = s.conditionType → st = .holds ∧ remark = s.success) :
    (b.record t st remark now).Settled e := by
  have hf := finished?_record_of_ne (b := b) ht st remark now
  cases e with
  | accepted =>
    by_cases he : t = .initialized
    · obtain ⟨rfl, rfl⟩ := hi he
      exact he ▸ shows_record b t _ _ now
    · exact Shows.record_of_ne h (Ne.symm he) st remark now
  | stepSucceeded s =>
    rcases h with h | h
    · by_cases he : t = s.conditionType
      · obtain ⟨rfl, rfl⟩ := hs s he
        exact Or.inl (he ▸ shows_record b t _ _ now)
      · exact Or.inl (h.record_of_ne (Ne.symm he) st remark now)
    · exact Or.inr (hf ▸ h)
  | stepFailed s =>
    obtain ⟨reason, h⟩ := h
    exact ⟨reason, hf.trans h⟩
  | succeeded output =>
    obtain ⟨reason, h⟩ := h
    exact ⟨reason, hf.trans h⟩

/-- Nothing is unsettled by the end of the pipeline, if acceptance is still shown. -/
theorem Settled.finish (h : b.Settled e) (hf : b'.finished? = some reason)
    (hi : b.Shows .initialized .holds .initialized → b'.Shows .initialized .holds .initialized) :
    b'.Settled e := by
  by_cases he : e = .accepted
  · subst he
    exact hi h
  · exact settled_of_finished hf he

theorem Settled.recordEvent (h : b.Settled e) (e' : PipelineEvent) (now later : Timestamp) :
    (b.recordEvent e' now later).1.Settled e := by
  have he := effect_event b e' now later
  generalize b.recordEvent e' now later = out at he ⊢
  cases he with
  | accepted => exact h.record now (by simp) (by simp) (by simp)
  | finished => exact h
  | stepSucceeded hf s => exact h.record now (by simp) (by simp) (by simp +contextual)
  | stepFailed hf s =>
    refine h.finish (finished?_of_fails standing?_record_self) fun hi => ?_
    exact (hi.record_of_ne (by simp) _ _ now).record_of_ne (by simp) _ _ later
  | @image _ image =>
    refine h.finish (finished?_of_holds standing?_record_self) fun hi => ?_
    exact (hi.recordImage image).record_of_ne (by simp) _ _ now
  | imageMissing =>
    refine h.finish (finished?_of_fails standing?_record_self) fun hi => ?_
    exact hi.record_of_ne (by simp) _ _ now

theorem settled_deliverAll (b : Build) {ds : List Delivery} (h : e ∈ ds.map Delivery.event) :
    (b.deliverAll ds).Settled e := by
  induction ds using List.reverseRecOn with
  | nil => simp at h
  | append_singleton ds d ih =>
    rw [deliverAll_concat]
    rcases List.mem_append.mp (List.map_append ▸ h) with hm | hm
    · exact (ih hm).recordEvent d.event d.now d.later
    · have he : e = d.event := by simpa using hm
      exact he ▸ settled_recordEvent (b.deliverAll ds) d.event d.now d.later

theorem Settled.deliverAll_filter (h : b.Settled e) (ds : List Delivery) :
    b.deliverAll (ds.filter fun d => d.event ≠ e) = b.deliverAll ds := by
  induction ds generalizing b with
  | nil => rfl
  | cons d ds ih =>
    by_cases he : d.event = e
    · have hd : (b.deliver d).1 = b := (he ▸ h).recordEvent_eq d.now d.later
      simpa [he, hd] using ih h
    · have hd : (b.deliver d).1.Settled e := h.recordEvent d.event d.now d.later
      simpa [he] using ih hd

/-- Only the first delivery of each event counts. -/
theorem deliverAll_eraseDupsBy (b : Build) (ds : List Delivery) :
    b.deliverAll (ds.eraseDupsBy fun d d' => d.event = d'.event) = b.deliverAll ds := by
  -- On the length: the rest is filtered before it is searched for repetitions.
  match ds with
  | [] => rfl
  | d :: ds =>
    have hd : (b.deliver d).1.Settled d.event := settled_recordEvent b d.event d.now d.later
    rw [List.eraseDupsBy_cons, deliverAll_cons, deliverAll_eraseDupsBy, deliverAll_cons]
    simpa using hd.deliverAll_filter ds
termination_by ds.length
decreasing_by exact Nat.lt_succ_of_le (List.length_filter_le _ _)

/-- Events may be delivered more than once. An event that was delivered is settled, so that it
leaves the build to the letter as it is when it comes again, and repeated ones may be dropped. -/
theorem redelivered_unchanged (b : Build) (ds : List Delivery) :
    (∀ e ∈ ds.map Delivery.event, (b.deliverAll ds).Settled e ∧ ∀ now later : Timestamp,
      ((b.deliverAll ds).recordEvent e now later).1 = b.deliverAll ds) ∧
    b.deliverAll (ds.eraseDupsBy fun d d' => d.event = d'.event) = b.deliverAll ds := by
  refine ⟨fun e he => ?_, deliverAll_eraseDupsBy b ds⟩
  have hs := settled_deliverAll b he
  exact ⟨hs, hs.recordEvent_eq⟩

def noon : Timestamp := { Timestamp.epoch with hour := 12, hour_lt := by decide }

/-- A clone that succeeds, and a push that fails. -/
def reports : List Delivery :=
  [⟨.stepSucceeded .clone, .epoch, .epoch⟩, ⟨.stepFailed .push, .epoch, noon⟩]

theorem redelivered_reports : PipelineEvent.stepSucceeded .clone ∈ reports.map Delivery.event ∧
    ((checkout.deliverAll reports).recordEvent (.stepSucceeded .clone) noon noon).1 =
      checkout.deliverAll reports ∧
    (checkout.deliverAll reports).standing? .completed = some .fails := by
  have he : PipelineEvent.stepSucceeded .clone ∈ reports.map Delivery.event := by decide
  exact ⟨he, ((redelivered_unchanged checkout reports).1 _ he).2 noon noon, by decide⟩

end BuildOperator.Build
