import BuildOperator.Build.Progress
import BuildOperator.Proofs.Condition
/-!
# Records on a build

What a record does to a build: the condition of its type stands for the generation of the build
with the recorded status, and whatever else stands is as before. Conditions of other generations
stay in the list, but they do not stand.
-/
namespace BuildOperator

namespace ConditionType

/-- The step whose outcome a type records, if it is one of a step. -/
def step? : ConditionType → Option Step
  | .cloneSucceeded => some .clone
  | .buildSucceeded => some .build
  | .pushSucceeded => some .push
  | .initialized | .completed | .deployableArtifactCreated | .deploymentApplied => none

@[simp] theorem step?_initialized : step? .initialized = none := rfl

@[simp] theorem step?_completed : step? .completed = none := rfl

@[simp] theorem step?_deployableArtifactCreated : step? .deployableArtifactCreated = none := rfl

@[simp] theorem step?_deploymentApplied : step? .deploymentApplied = none := rfl

end ConditionType

namespace Step

@[simp] theorem step?_conditionType (s : Step) : s.conditionType.step? = some s := by
  cases s <;> rfl

@[simp] theorem conditionType_eq_iff {s : Step} {t : ConditionType} :
    s.conditionType = t ↔ t.step? = some s := by
  cases s <;> cases t <;> simp [conditionType, ConditionType.step?]

@[simp] theorem eq_conditionType_iff {s : Step} {t : ConditionType} :
    t = s.conditionType ↔ t.step? = some s := by
  rw [eq_comm, conditionType_eq_iff]

end Step

namespace Build
variable {b b' : Build} {t t' : ConditionType} {st : ConditionStatus} {remark : Remark}
  {now later : Timestamp}

/-- The first condition of a type, if it was recorded for the generation of the build. -/
def current? (b : Build) (type : ConditionType) : Option Condition :=
  (b.conditions.find? type).filter fun c => c.observedGeneration = b.generation

/-- The status that a type stands at for the generation of the build, if it was recorded for it. -/
def standing? (b : Build) (type : ConditionType) : Option ConditionStatus :=
  (b.current? type).map Condition.status

theorem holds_iff : b.holds t st = true ↔ b.standing? t = some st := by
  unfold holds standing? current?
  cases b.conditions.find? t with
  | none => simp
  | some c =>
    by_cases hg : c.observedGeneration = b.generation
    · simp [Option.filter, hg]
    · simp [Option.filter, hg]

theorem holds_eq (b : Build) (t : ConditionType) (st : ConditionStatus) :
    b.holds t st = decide (b.standing? t = some st) := by
  rw [Bool.eq_iff_iff, holds_iff, decide_eq_true_iff]

theorem current?_congr (hf : b.conditions.find? t = b'.conditions.find? t)
    (hg : b.generation = b'.generation) : b.current? t = b'.current? t := by
  unfold current?
  rw [hf, hg]

theorem standing?_congr (hf : b.conditions.find? t = b'.conditions.find? t)
    (hg : b.generation = b'.generation) : b.standing? t = b'.standing? t :=
  congrArg (Option.map Condition.status) (current?_congr hf hg)

theorem conditions_eq (b : Build) : b.conditions = b.currentStatus.conditions := by
  unfold conditions currentStatus
  cases b.status <;> rfl

theorem conditions_of_status_none (h : b.status = none) : b.conditions = [] := by
  simp [conditions, h]

theorem status_of_find? {c : Condition} (h : b.conditions.find? t = some c) :
    b.status = some b.currentStatus := by
  unfold conditions at h
  unfold currentStatus
  cases hs : b.status with
  | none => simp [hs] at h
  | some s => rfl

/-- What a record writes down. -/
def finding (b : Build) (type : ConditionType) (status : ConditionStatus) (remark : Remark) :
    Finding :=
  ⟨type, status, remark.reason, remark.message, b.generation⟩

section
variable (b : Build) (t : ConditionType) (st : ConditionStatus) (remark : Remark) (now : Timestamp)

@[simp] theorem metadata_record : (b.record t st remark now).metadata = b.metadata := rfl

@[simp] theorem spec_record : (b.record t st remark now).spec = b.spec := rfl

@[simp] theorem generation_record : (b.record t st remark now).generation = b.generation := rfl

@[simp] theorem imageStatus_record :
    (b.record t st remark now).currentStatus.imageStatus = b.currentStatus.imageStatus := rfl

@[simp] theorem finding_record (t' : ConditionType) (st' : ConditionStatus) (remark' : Remark) :
    (b.record t st remark now).finding t' st' remark' = b.finding t' st' remark' := rfl

theorem conditions_record : (b.record t st remark now).conditions =
    (b.conditions.record (b.finding t st remark) now).1 := by
  rw [conditions_eq b]
  rfl

end

theorem find?_record_of_ne (h : t' ≠ t) :
    (b.record t st remark now).conditions.find? t' = b.conditions.find? t' := by
  rw [conditions_record]
  exact Conditions.find?_record_of_ne _ _ h

theorem standing?_record_of_ne (h : t' ≠ t) :
    (b.record t st remark now).standing? t' = b.standing? t' :=
  standing?_congr (find?_record_of_ne h) rfl

/-- The first condition of a type shows this status and remark for the generation of the build. -/
def Shows (b : Build) (type : ConditionType) (status : ConditionStatus) (remark : Remark) : Prop :=
  ∃ c, b.conditions.find? type = some c ∧ c.Shows (b.finding type status remark)

theorem shows_record (b : Build) (t : ConditionType) (st : ConditionStatus) (remark : Remark)
    (now : Timestamp) : (b.record t st remark now).Shows t st remark := by
  unfold Shows
  rw [conditions_record]
  exact Conditions.exists_shows_record b.conditions (b.finding t st remark) now

theorem Shows.current?_eq (h : b.Shows t st remark) :
    ∃ c, b.current? t = some c ∧ c.Shows (b.finding t st remark) := by
  obtain ⟨c, hc, hs⟩ := h
  have hg : c.observedGeneration = b.generation := hs.generation
  exact ⟨c, by simp [current?, Option.filter, hc, hg], hs⟩

theorem Shows.standing?_eq (h : b.Shows t st remark) : b.standing? t = some st := by
  obtain ⟨c, hc, hs⟩ := h
  have hg : c.observedGeneration = b.generation := hs.generation
  have hst : c.status = st := hs.status
  simp [standing?, current?, Option.filter, hc, hg, hst]

theorem Shows.record_of_ne (h : b.Shows t st remark) (ht : t ≠ t') (st' : ConditionStatus)
    (remark' : Remark) (now : Timestamp) : (b.record t' st' remark' now).Shows t st remark := by
  unfold Shows
  rw [find?_record_of_ne ht]
  exact h

/-- To record once more what is shown already changes nothing. -/
theorem Shows.record_eq (h : b.Shows t st remark) (now : Timestamp) :
    b.record t st remark now = b := by
  obtain ⟨c, hc, hs⟩ := h
  have hb := status_of_find? hc
  rw [conditions_eq] at hc
  have hr : (b.currentStatus.conditions.record (b.finding t st remark) now).1 =
      b.currentStatus.conditions := Conditions.record_of_shows hc hs now
  change { b with status := some { b.currentStatus with
    conditions := (b.currentStatus.conditions.record (b.finding t st remark) now).1 } } = b
  rw [hr, ← hb]

@[simp] theorem standing?_record_self : (b.record t st remark now).standing? t = some st :=
  (shows_record b t st remark now).standing?_eq

theorem standing?_record (b : Build) (t : ConditionType) (st : ConditionStatus) (remark : Remark)
    (now : Timestamp) (t' : ConditionType) : (b.record t st remark now).standing? t' =
      if t' = t then some st else b.standing? t' := by
  by_cases h : t' = t
  · subst h
    simp
  · rw [if_neg h, standing?_record_of_ne h]

section
variable (b : Build) (image : String)

@[simp] theorem metadata_recordImage : (b.recordImage image).metadata = b.metadata := rfl

@[simp] theorem spec_recordImage : (b.recordImage image).spec = b.spec := rfl

@[simp] theorem generation_recordImage : (b.recordImage image).generation = b.generation := rfl

@[simp] theorem conditions_recordImage : (b.recordImage image).conditions = b.conditions :=
  (conditions_eq b).symm

@[simp] theorem imageStatus_recordImage :
    (b.recordImage image).currentStatus.imageStatus = ⟨image⟩ := rfl

@[simp] theorem standing?_recordImage : (b.recordImage image).standing? t = b.standing? t :=
  standing?_congr (by rw [conditions_recordImage]) rfl

end

theorem Shows.recordImage (h : b.Shows t st remark) (image : String) :
    (b.recordImage image).Shows t st remark := by
  unfold Shows
  rw [conditions_recordImage]
  exact h

theorem image?_eq_some_iff {image : String} : b.image? = some image ↔
    b.currentStatus.imageStatus.image = image ∧ image ≠ "" := by
  unfold image? currentStatus
  cases b.status with
  | none => simp [Option.filter]
  | some s => by_cases he : s.imageStatus.image = "" <;> grind

theorem image?_congr (h : b.currentStatus.imageStatus = b'.currentStatus.imageStatus) :
    b.image? = b'.image? := by
  ext image
  rw [image?_eq_some_iff, image?_eq_some_iff, h]

@[simp] theorem image?_record : (b.record t st remark now).image? = b.image? :=
  image?_congr rfl

end Build
end BuildOperator
