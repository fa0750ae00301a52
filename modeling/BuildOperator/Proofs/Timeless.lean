import BuildOperator.Proofs.Mark
/-!
# Without times

The clock decides nothing but the times of conditions: two builds that an event is recorded on at
different times are the same once the times are left out.
-/
namespace BuildOperator

/-- A condition of which nobody knows since when it has its status. -/
def Condition.timeless (c : Condition) : Condition := { c with lastTransitionTime := .epoch }

theorem Conditions.map_timeless_record (cs : Conditions) (f : Finding) (now : Timestamp) :
    (cs.record f now).1.map Condition.timeless =
      (Conditions.record (cs.map Condition.timeless) f .epoch).1 := by
  induction cs with
  | nil => rfl
  | cons c cs ih =>
    have hrevise : (c.revise f now).timeless = c.timeless.revise f .epoch := by
      unfold Condition.revise Condition.timeless
      simp only [ite_self]
    have htype : c.timeless.type = c.type := rfl
    rw [record_cons, List.map_cons, record_cons, htype]
    split
    · rw [List.map_cons, hrevise]
    · rw [List.map_cons, ih]

namespace Build
/-- A build without the times of its conditions. -/
def timeless (b : Build) : Build := { b with
  status := b.status.map fun s => { s with conditions := s.conditions.map Condition.timeless } }

theorem currentStatus_timeless (b : Build) : b.timeless.currentStatus =
    { b.currentStatus with conditions := b.currentStatus.conditions.map Condition.timeless } := by
  unfold timeless currentStatus
  cases b.status <;> rfl

theorem timeless_record (b : Build) (t : ConditionType) (st : ConditionStatus) (remark : Remark)
    (now : Timestamp) : (b.record t st remark now).timeless =
      b.timeless.record t st remark .epoch := by
  have hc := Conditions.map_timeless_record b.currentStatus.conditions (b.finding t st remark) now
  unfold record modifyStatus
  rw [currentStatus_timeless]
  change { b with status := some { b.currentStatus with conditions :=
    (b.currentStatus.conditions.record (b.finding t st remark) now).1.map Condition.timeless } } = _
  rw [hc]
  rfl

/-- What an event does depends on the clock for nothing but the times of conditions. -/
theorem recordEvent_timeless (b : Build) (e : PipelineEvent) (now later now' later' : Timestamp) :
    (b.recordEvent e now later).2 = (b.recordEvent e now' later').2 ∧
      (b.recordEvent e now later).1.timeless = (b.recordEvent e now' later').1.timeless := by
  have he := effect_event b e now later
  generalize b.recordEvent e now later = out at he ⊢
  cases he with
  | accepted => exact ⟨rfl, by simp only [recordEvent, recordInitialized, timeless_record]⟩
  | finished he hf =>
    rw [recordEvent_of_finished now' later' he hf]
    exact ⟨rfl, rfl⟩
  | stepSucceeded hf step =>
    rw [recordEvent_stepSucceeded now' later' hf]
    exact ⟨rfl, by simp only [timeless_record]⟩
  | stepFailed hf step =>
    rw [recordEvent_stepFailed now' later' hf]
    exact ⟨rfl, by simp only [timeless_record]⟩
  | image hf hi =>
    rw [recordEvent_image now' later' hf hi]
    exact ⟨rfl, by simp only [timeless_record]⟩
  | imageMissing hf hi =>
    rw [recordEvent_imageMissing now' later' hf hi]
    exact ⟨rfl, by simp only [timeless_record]⟩

end Build
end BuildOperator
