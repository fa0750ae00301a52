import BuildOperator.Proofs.Mark
import Mathlib.Logic.Relation
import Mathlib.Tactic.ByContra
/-!
# The order of the checkpoints

However a build without a status is marked, and however its generation grows, its checkpoints rest
on each other: a deployment on the artifact, the artifact on the completion, the completion on an
image and on steps that did not fail. Conditions of older generations are never erased, so the
invariant is about what stands for the generation of the build, and no condition is ahead of it.
-/
namespace BuildOperator.Build
variable {b b' : Build} {now later : Timestamp}

/-- A build is marked at some time, or it gets a generation that is not lower. -/
inductive Evolves : Build → Build → Prop where
  | mark (b : Build) (m : Mark) (now later : Timestamp) : Evolves b (b.mark m now later).1
  | generation (b : Build) (value : Option Int64)
      (h : b.generation ≤ (b.withGeneration value).generation) : Evolves b (b.withGeneration value)

/-- No condition is ahead of the build, and no type is there twice. -/
structure Tidy (b : Build) : Prop where
  observed : ∀ c ∈ b.conditions, c.observedGeneration ≤ b.generation
  unique : (b.conditions.map Condition.type).Nodup

/-- What stands for the generation of the build rests on what has to stand before it. -/
structure Grounded (b : Build) : Prop where
  deployed : b.standing? .deploymentApplied ≠ none →
    b.standing? .deployableArtifactCreated = some .holds
  published : b.standing? .deployableArtifactCreated ≠ none → b.standing? .completed = some .holds
  image : b.standing? .completed = some .holds → ∃ image, b.image? = some image
  failed : ∀ s : Step, b.standing? s.conditionType = some .fails →
    b.standing? .completed = some .fails

theorem Tidy.record (h : b.Tidy) (t : ConditionType) (st : ConditionStatus) (remark : Remark)
    (now : Timestamp) : (b.record t st remark now).Tidy := by
  constructor
  · intro c hc
    rw [conditions_record] at hc
    rcases Conditions.mem_record hc with hm | hg
    · exact h.observed c hm
    · exact Int64.le_of_eq hg
  · rw [conditions_record]
    exact Conditions.nodup_types_record _ _ h.unique

theorem Tidy.recordImage (h : b.Tidy) (image : String) : (b.recordImage image).Tidy := by
  constructor
  · rw [conditions_recordImage]
    exact h.observed
  · rw [conditions_recordImage]
    exact h.unique

theorem conditions_congr (h : b'.status = b.status) : b'.conditions = b.conditions :=
  congrArg (·.elim [] BuildStatus.conditions) h

theorem Tidy.of_status (h : b.Tidy) (hs : b'.status = b.status)
    (hg : b.generation ≤ b'.generation) : b'.Tidy := by
  have hc := conditions_congr hs
  constructor
  · intro c hm
    rw [hc] at hm
    exact Int64.le_trans (h.observed c hm) hg
  · rw [hc]
    exact h.unique

theorem Grounded.of_unfinished (h : b.Grounded) (hf : b.finished? = none) :
    b.standing? .deployableArtifactCreated = none ∧ b.standing? .deploymentApplied = none ∧
      ∀ s : Step, b.standing? s.conditionType ≠ some .fails := by
  obtain ⟨hc, hn⟩ := finished?_eq_none_iff.mp hf
  have ha : b.standing? .deployableArtifactCreated = none := by
    by_contra ha
    exact hc (h.published ha)
  refine ⟨ha, ?_, fun s hs => hn (h.failed s hs)⟩
  by_contra hd
  rw [h.deployed hd] at ha
  cases ha

theorem Grounded.recordInitialized (h : b.Grounded) :
    (b.record .initialized .holds .initialized now).Grounded := by
  constructor
  · simpa [standing?_record] using h.deployed
  · simpa [standing?_record] using h.published
  · simpa [standing?_record, image?_record] using h.image
  · simpa [standing?_record] using h.failed

theorem Grounded.recordStepSucceeded (h : b.Grounded) (hf : b.finished? = none) (s : Step) :
    (b.record s.conditionType .holds s.success now).Grounded := by
  obtain ⟨ha, hd, hs⟩ := h.of_unfinished hf
  obtain ⟨hc, _⟩ := finished?_eq_none_iff.mp hf
  constructor
  · simp [standing?_record, hd]
  · simp [standing?_record, ha]
  · simp [standing?_record, hc]
  · intro s'
    by_cases he : s' = s
    · simp [standing?_record, he]
    · simp [standing?_record, he, hs s']

/-- A completion that fails while neither artifact nor deployment stands needs nothing else. -/
theorem grounded_of_failed (ha : b.standing? .deployableArtifactCreated = none)
    (hd : b.standing? .deploymentApplied = none) (remark : Remark) (now : Timestamp) :
    (b.record .completed .fails remark now).Grounded := by
  constructor
  · simp [standing?_record, hd]
  · simp [standing?_record, ha]
  · simp
  · simp

theorem Grounded.recordStepFailed (h : b.Grounded) (hf : b.finished? = none) (s : Step) :
    ((b.record s.conditionType .fails s.failure now).record .completed .fails .stepFailed
      later).Grounded := by
  obtain ⟨ha, hd, _⟩ := h.of_unfinished hf
  apply grounded_of_failed
  · simpa [standing?_record] using ha
  · simpa [standing?_record] using hd

theorem Grounded.recordImageMissing (h : b.Grounded) (hf : b.finished? = none) :
    (b.record .completed .fails .imageMissing now).Grounded := by
  obtain ⟨ha, hd, _⟩ := h.of_unfinished hf
  exact grounded_of_failed ha hd _ _

theorem Grounded.recordCompleted (h : b.Grounded) (hf : b.finished? = none) {image : String}
    (hi : image ≠ "") :
    ((b.recordImage image).record .completed .holds .completed now).Grounded := by
  obtain ⟨ha, hd, hs⟩ := h.of_unfinished hf
  constructor
  · simp [standing?_record, hd]
  · simp [standing?_record]
  · intro _
    exact ⟨image, image?_eq_some_iff.mpr ⟨rfl, hi⟩⟩
  · simpa [standing?_record] using hs

theorem Grounded.recordArtifactCreated (h : b.Grounded)
    (hc : b.standing? .completed = some .holds) :
    (b.record .deployableArtifactCreated .holds .artifactCreated now).Grounded := by
  constructor
  · simp [standing?_record]
  · simp [standing?_record, hc]
  · simpa [standing?_record] using h.image
  · simpa [standing?_record] using h.failed

theorem Grounded.recordDeployment (h : b.Grounded)
    (ha : b.standing? .deployableArtifactCreated = some .holds) (st : ConditionStatus)
    (remark : Remark) : (b.record .deploymentApplied st remark now).Grounded := by
  constructor
  · simp [standing?_record, ha]
  · simpa [standing?_record] using h.published
  · simpa [standing?_record] using h.image
  · simpa [standing?_record] using h.failed

theorem Grounded.mark (h : b.Grounded) (m : Mark) (now later : Timestamp) :
    (b.mark m now later).1.Grounded := by
  have hm := effect_mark b m now later
  generalize b.mark m now later = out at hm ⊢
  cases hm with
  | accepted => exact h.recordInitialized
  | finished | notCompleted | noArtifact => exact h
  | stepSucceeded hf step => exact h.recordStepSucceeded hf step
  | stepFailed hf step => exact h.recordStepFailed hf step
  | image hf hi => exact h.recordCompleted hf (PipelineOutput.image?_ne_empty hi)
  | imageMissing hf => exact h.recordImageMissing hf
  | artifact hc => exact h.recordArtifactCreated hc
  | deployed ha => exact h.recordDeployment ha _ _
  | notDeployed ha => exact h.recordDeployment ha _ _

theorem Tidy.mark (h : b.Tidy) (m : Mark) (now later : Timestamp) :
    (b.mark m now later).1.Tidy :=
  mark_induction (fun _ t st remark now h => h.record t st remark now)
    (fun _ image h => h.recordImage image) h m now later

theorem Tidy.standing?_of_lt (h : b.Tidy) (hs : b'.status = b.status)
    (hg : b.generation < b'.generation) (t : ConditionType) : b'.standing? t = none := by
  have hn : ∀ c ∈ b.conditions, c.observedGeneration ≠ b'.generation := by
    intro c hc he
    have hle := Int64.le_iff_toInt_le.mp (h.observed c hc)
    have hlt := Int64.lt_iff_toInt_lt.mp hg
    rw [he] at hle
    omega
  unfold standing? current?
  rw [conditions_congr hs]
  cases hf : b.conditions.find? t with
  | none => rfl
  | some c => simp [Option.filter, hn c (Conditions.mem_of_find? hf)]

theorem Tidy.standing?_of_status (h : b.Tidy) (hs : b'.status = b.status)
    (hg : b.generation ≤ b'.generation) :
    (b.generation = b'.generation ∧ ∀ t, b'.standing? t = b.standing? t) ∨
      (b.generation < b'.generation ∧ ∀ t, b'.standing? t = none) := by
  by_cases he : b.generation = b'.generation
  · exact Or.inl ⟨he, fun _ => standing?_congr (by rw [conditions_congr hs]) he.symm⟩
  · have hlt := Int64.lt_of_le_of_ne hg he
    exact Or.inr ⟨hlt, h.standing?_of_lt hs hlt⟩

theorem Grounded.of_status (h : b.Grounded) (ht : b.Tidy) (hst : b'.status = b.status)
    (hg : b.generation ≤ b'.generation) : b'.Grounded := by
  obtain ⟨_, hs⟩ | ⟨_, hs⟩ := ht.standing?_of_status hst hg
  · have hi : b'.image? = b.image? := by rw [image?, image?, hst]
    constructor
    · simpa only [hs] using h.deployed
    · simpa only [hs] using h.published
    · simpa only [hs, hi] using h.image
    · simpa only [hs] using h.failed
  · constructor <;> simp [hs]

theorem Evolves.preserves (hs : Evolves b b') (h : b.Tidy ∧ b.Grounded) :
    b'.Tidy ∧ b'.Grounded := by
  cases hs with
  | mark m now later => exact ⟨h.1.mark m now later, h.2.mark m now later⟩
  | generation value hg => exact ⟨h.1.of_status rfl hg, h.2.of_status h.1 rfl hg⟩

theorem tidy_grounded_of_status_none (h : b.status = none) : b.Tidy ∧ b.Grounded := by
  have hc := conditions_of_status_none h
  have hs : ∀ t, b.standing? t = none := fun t => by simp [standing?, current?, hc]
  refine ⟨⟨by simp [hc], by simp [hc]⟩, ?_⟩
  constructor <;> simp [hs]

/-- Whatever becomes of a build that had no status: no condition is ahead of its generation, no
type is there twice, and its checkpoints of this generation rest on each other. -/
theorem checkpoints_of_evolves (hb : b.status = none) (h : Relation.ReflTransGen Evolves b b') :
    (∀ c ∈ b'.conditions, c.observedGeneration ≤ b'.generation) ∧
    (b'.conditions.map Condition.type).Nodup ∧
    (b'.standing? .deploymentApplied ≠ none →
      b'.standing? .deployableArtifactCreated = some .holds) ∧
    (b'.standing? .deployableArtifactCreated ≠ none → b'.standing? .completed = some .holds) ∧
    (b'.standing? .completed = some .holds → (∃ image, b'.image? = some image ∧ image ≠ "") ∧
      ∀ s : Step, b'.standing? s.conditionType ≠ some .fails) ∧
    ∀ s : Step, b'.standing? s.conditionType = some .fails →
      b'.standing? .completed = some .fails := by
  have hi : b'.Tidy ∧ b'.Grounded := by
    induction h with
    | refl => exact tidy_grounded_of_status_none hb
    | tail _ hs ih => exact hs.preserves ih
  obtain ⟨ht, hg⟩ := hi
  refine ⟨ht.observed, ht.unique, hg.deployed, hg.published, ?_, hg.failed⟩
  intro hc
  obtain ⟨image, hm⟩ := hg.image hc
  refine ⟨⟨image, hm, (image?_eq_some_iff.mp hm).2⟩, ?_⟩
  intro s hs
  rw [hg.failed s hs] at hc
  cases hc

/-- A clone that failed in the first generation, and an artifact that was not deployed in the
second. -/
def retried : Build :=
  let failed := (checkout.mark (.event (.stepFailed .clone)) .epoch .epoch).1
  let renewed := failed.withGeneration (some 2)
  let built := (renewed.mark (.event (.succeeded imageOutput)) .epoch .epoch).1
  let published := (built.mark .artifact .epoch .epoch).1
  (published.mark (.deployment false) .epoch .epoch).1

theorem evolves_retried : Relation.ReflTransGen Evolves checkout retried :=
  ((((Relation.ReflTransGen.refl.tail (.mark _ _ _ _)).tail
    (.generation _ (some 2) (by decide))).tail (.mark _ _ _ _)).tail (.mark _ _ _ _)).tail
      (.mark _ _ _ _)

theorem checkpoints_of_retried : checkout.status = none ∧
    Relation.ReflTransGen Evolves checkout retried ∧
    retried.standing? .cloneSucceeded = none ∧
    retried.standing? .deploymentApplied = some .fails ∧
    retried.standing? .deployableArtifactCreated = some .holds := by
  have hd : retried.standing? .deploymentApplied = some .fails := by decide
  refine ⟨rfl, evolves_retried, by decide, hd, ?_⟩
  exact (checkpoints_of_evolves rfl evolves_retried).2.2.1 (by simp [hd])

end BuildOperator.Build
