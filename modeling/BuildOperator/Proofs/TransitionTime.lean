import BuildOperator.Proofs.GenerationView
import Mathlib.Data.List.Induction
import Mathlib.Data.List.Nodup
/-!
# The time of a status

The time of a condition is that of the last change of its status. It is told by the history of the
statuses of its type alone: a mark that asserts a status once more, with another reason, message or
generation, leaves the time, and so does whatever is not recorded or is about another type. Changes
of the generation in between, also to a lower one, make no difference.
-/
namespace BuildOperator

namespace Conditions
variable {cs cs' ds ds' : Conditions} {f : Finding} {c : Condition} {t : ConditionType}
  {now : Timestamp}

/-- Since when the first condition of a type has its status. -/
def timeOf? (cs : Conditions) (type : ConditionType) : Option Timestamp :=
  (find? cs type).map Condition.lastTransitionTime

/-- From one list to the next a type keeps its time together with its status, and gets this time
where its status is another one. -/
structure Timed (cs cs' : Conditions) (type : ConditionType) (now : Timestamp) : Prop where
  kept : cs'.statusOf? type = cs.statusOf? type → cs'.timeOf? type = cs.timeOf? type
  moved : cs'.statusOf? type ≠ cs.statusOf? type → cs'.timeOf? type = some now

theorem timed_of_find? (h : cs'.find? t = cs.find? t) (now : Timestamp) : cs.Timed cs' t now := by
  refine ⟨fun _ => ?_, fun hs => ?_⟩
  · rw [timeOf?, timeOf?, h]
  · rw [statusOf?, statusOf?, h] at hs
    exact absurd rfl hs

theorem Timed.congr (h : cs.Timed cs' t now) (hc : ds.find? t = cs.find? t)
    (hc' : ds'.find? t = cs'.find? t) : ds.Timed ds' t now := by
  obtain ⟨hk, hm⟩ := h
  refine ⟨fun hs => ?_, fun hs => ?_⟩
  · rw [timeOf?, timeOf?, hc, hc']
    rw [statusOf?, statusOf?, hc, hc'] at hs
    exact hk hs
  · rw [timeOf?, hc']
    rw [statusOf?, statusOf?, hc, hc'] at hs
    exact hm hs

theorem timed_record (cs : Conditions) (f : Finding) (now : Timestamp) (t : ConditionType) :
    cs.Timed (record cs f now).1 t now := by
  by_cases ht : t = f.type
  · subst ht
    have hf := find?_record_self cs f now
    cases hc : cs.find? f.type with
    | none =>
      refine ⟨fun hs => ?_, fun _ => ?_⟩
      · simp [statusOf?, hf, hc] at hs
      · simp [timeOf?, hf, hc, Finding.toCondition]
    | some c =>
      refine ⟨fun hs => ?_, fun hs => ?_⟩
      · have he : c.status = f.status := by
          simpa [statusOf?, hf, hc, Condition.revise, eq_comm] using hs
        simp [timeOf?, hf, hc, Condition.revise, he]
      · have hne : c.status ≠ f.status := by
          simpa [statusOf?, hf, hc, Condition.revise, eq_comm] using hs
        simp [timeOf?, hf, hc, Condition.revise, hne]
  · exact timed_of_find? (find?_record_of_ne cs now ht) now

/-- Every condition is the only one of its type, which is of the vocabulary. -/
structure Listed (cs : Conditions) : Prop where
  unique : (cs.map Condition.type).Nodup
  known : ∀ c ∈ cs, ∃ t : ConditionType, c.type = t.name

theorem Listed.record (h : cs.Listed) (f : Finding) (now : Timestamp) :
    (record cs f now).1.Listed where
  unique := nodup_types_record f now h.unique
  known := by
    intro c hc
    have hm : c.type ∈ (cs.record f now).1.map Condition.type := List.mem_map_of_mem hc
    have hor : c.type ∈ cs.map Condition.type ∨ c.type = f.type.name := by
      rw [types_record] at hm
      split at hm
      · exact Or.inl hm
      · simpa using hm
    rcases hor with hold | hnew
    · obtain ⟨d, hd, he⟩ := List.mem_map.mp hold
      exact he ▸ h.known d hd
    · exact ⟨f.type, hnew⟩

theorem Listed.find?_of_mem (h : cs.Listed) (hc : c ∈ cs) : ∃ t, cs.find? t = some c := by
  obtain ⟨t, ht⟩ := h.known c hc
  have hsome : (cs.find? t).isSome := List.find?_isSome.mpr ⟨c, hc, by simpa using ht⟩
  obtain ⟨d, hd⟩ := Option.isSome_iff_exists.mp hsome
  have hdt : d.type = t.name := by simpa using List.find?_some hd
  obtain rfl : d = c :=
    List.inj_on_of_nodup_map h.unique (mem_of_find? hd) hc (hdt.trans ht.symm)
  exact ⟨t, hd⟩

end Conditions

namespace Build
variable {b : Build}

/-- What the clock reads for the condition of a type when a mark is made. The failure of a step
reads it once more for the completion. -/
def Marking.reading (m : Marking) (type : ConditionType) : Timestamp :=
  match m.mark with
  | .event (.stepFailed _) => if type = .completed then m.later else m.now
  | _ => m.now

theorem timed_record (b : Build) (t : ConditionType) (st : ConditionStatus) (remark : Remark)
    (now : Timestamp) (type : ConditionType) :
    b.conditions.Timed (b.record t st remark now).conditions type now := by
  rw [conditions_record]
  exact Conditions.timed_record _ _ _ _

theorem timed_make (b : Build) (m : Marking) (type : ConditionType) :
    b.conditions.Timed (b.make m).1.conditions type (m.reading type) := by
  obtain ⟨mark, now, later⟩ := m
  have hm := effect_mark b mark now later
  unfold make
  generalize b.mark mark now later = out at hm ⊢
  cases hm with
  | finished | notCompleted | noArtifact => exact Conditions.timed_of_find? rfl _
  | stepFailed hf step =>
    -- The two records are about different types: each type is timed by its own.
    by_cases ht : type = .completed
    · have hfirst : (b.record step.conditionType .fails step.failure now).conditions.find? type =
          b.conditions.find? type := find?_record_of_ne (by simp [ht])
      simp only [Marking.reading, if_pos ht]
      exact (timed_record _ _ _ _ later type).congr hfirst.symm rfl
    · simp only [Marking.reading, if_neg ht]
      exact (timed_record b _ _ _ now type).congr rfl (find?_record_of_ne ht)
  | @image _ image =>
    have hr := timed_record (b.recordImage image) .completed .holds .completed now type
    exact hr.congr (by rw [conditions_recordImage]) rfl
  | accepted | stepSucceeded | imageMissing | artifact | deployed | notDeployed =>
    exact timed_record b _ _ _ now type

theorem make_of_skipped {m : Marking} {reason : SkipReason}
    (h : (b.make m).2 = .skipped reason) : (b.make m).1 = b := by
  have hm : Effect b m.now m.later m.mark (b.make m) := effect_mark b m.mark m.now m.later
  have hout : b.make m = ((b.make m).1, .skipped reason) := Prod.ext rfl h
  rw [hout] at hm
  exact hm.eq_of_skipped

/-- A mark at some time, or another generation, whatever it is. -/
inductive Operation where
  | mark (m : Marking)
  | generation (value : Option Int64)
  deriving DecidableEq

variable {ops : List Operation} {t : ConditionType} {st : ConditionStatus}

def operate (b : Build) : Operation → Build
  | .mark m => (b.make m).1
  | .generation value => b.withGeneration value

/-- The build after operations, one after the other. -/
def operateAll (b : Build) (ops : List Operation) : Build := ops.foldl operate b

@[simp] theorem operateAll_concat (b : Build) (ops : List Operation) (op : Operation) :
    b.operateAll (ops ++ [op]) = (b.operateAll ops).operate op := by
  simp [operateAll]

/-- An operation leaves the time of a type with its status. Only a recorded mark of that type makes
the status another one, and the time then is what the clock read for it. -/
structure Retimed (b : Build) (op : Operation) (type : ConditionType) : Prop where
  kept : (b.operate op).conditions.statusOf? type = b.conditions.statusOf? type →
    (b.operate op).conditions.timeOf? type = b.conditions.timeOf? type
  moved : (b.operate op).conditions.statusOf? type ≠ b.conditions.statusOf? type →
    ∃ m : Marking, op = .mark m ∧ type ∈ m.mark.types ∧ (b.make m).2 = .recorded ∧
      (b.operate op).conditions.timeOf? type = some (m.reading type)

theorem retimed (b : Build) (op : Operation) (type : ConditionType) : b.Retimed op type := by
  cases op with
  | generation value => exact ⟨fun _ => rfl, fun h => absurd rfl h⟩
  | mark m =>
    have ht := timed_make b m type
    refine ⟨ht.kept, fun h => ⟨m, rfl, ?_, ?_, ht.moved h⟩⟩
    · by_contra hn
      have hf := b.find?_mark_of_not_mem hn m.now m.later
      exact h (congrArg (Option.map Condition.status) hf)
    · cases hr : (b.make m).2 with
      | recorded => rfl
      | skipped reason =>
        have he : b.operate (.mark m) = b := make_of_skipped hr
        exact absurd (by rw [he]) h

/-- A mark is the last by which a type came to a status: the type did not have the status before it,
and has had it ever since. -/
def LastSetBy (b : Build) (ops : List Operation) (type : ConditionType) (status : ConditionStatus)
    (m : Marking) : Prop :=
  ∃ earlier later, ops = earlier ++ .mark m :: later ∧
    (b.operateAll earlier).conditions.statusOf? type ≠ some status ∧
    ∀ between, between <+: later →
      (b.operateAll (earlier ++ .mark m :: between)).conditions.statusOf? type = some status

theorem LastSetBy.concat {m : Marking} (h : b.LastSetBy ops t st m) {op : Operation}
    (hop : (b.operateAll (ops ++ [op])).conditions.statusOf? t = some st) :
    b.LastSetBy (ops ++ [op]) t st m := by
  obtain ⟨earlier, later, rfl, hbefore, hsince⟩ := h
  refine ⟨earlier, later ++ [op], by simp, hbefore, fun between hb => ?_⟩
  rcases List.prefix_concat_iff.mp hb with rfl | hb
  · rw [← List.cons_append, ← List.append_assoc]
    exact hop
  · exact hsince between hb

/-- A mark that has just changed a status is the last that did. -/
theorem lastSetBy_concat {m : Marking}
    (hbefore : (b.operateAll ops).conditions.statusOf? t ≠ some st)
    (hnow : (b.operateAll (ops ++ [.mark m])).conditions.statusOf? t = some st) :
    b.LastSetBy (ops ++ [.mark m]) t st m := by
  refine ⟨ops, [], rfl, hbefore, fun between hb => ?_⟩
  obtain rfl := List.prefix_nil.mp hb
  exact hnow

theorem listed_operateAll (hb : b.status = none) (ops : List Operation) :
    (b.operateAll ops).conditions.Listed := by
  induction ops using List.reverseRecOn with
  | nil =>
    show b.conditions.Listed
    rw [conditions_of_status_none hb]
    exact ⟨.nil, by simp⟩
  | append_singleton ops op ih =>
    rw [operateAll_concat]
    cases op with
    | generation value => exact ih
    | mark m =>
      refine mark_induction (P := fun b => b.conditions.Listed) ?_ ?_ ih m.mark m.now m.later
      · intro b t st remark now h
        rw [conditions_record]
        exact h.record _ now
      · intro b image h
        rw [conditions_recordImage]
        exact h

/-- A type that has a status has it by some mark, and has the time that was read at that mark. -/
theorem exists_lastSetBy (hb : b.status = none) (ops : List Operation)
    (hs : (b.operateAll ops).conditions.statusOf? t = some st) :
    ∃ m : Marking, b.LastSetBy ops t st m ∧
      (b.operateAll ops).conditions.timeOf? t = some (m.reading t) := by
  induction ops using List.reverseRecOn with
  | nil =>
    have hn : (b.operateAll []).conditions = [] := conditions_of_status_none hb
    simp [hn, Conditions.statusOf?] at hs
  | append_singleton ops op ih =>
    have hr := retimed (b.operateAll ops) op t
    have hstatus := hs
    rw [operateAll_concat] at hs ⊢
    -- The last operation found the status as it is, or it is the mark itself.
    by_cases hsame : (b.operateAll ops).conditions.statusOf? t = some st
    · obtain ⟨m, hlast, htime⟩ := ih hsame
      exact ⟨m, hlast.concat hstatus, (hr.kept (hs.trans hsame.symm)).trans htime⟩
    · obtain ⟨m, rfl, -, -, htime⟩ := hr.moved (hs ▸ Ne.symm hsame)
      exact ⟨m, lastSetBy_concat hsame hstatus, htime⟩

/-- Whatever becomes of a build that had no status, the time of each condition is what the clock
read at the last mark by which the condition came to be or to its status. An operation that leaves
the status of a type leaves its time, and a status that is another one after an operation has the
time that was read for it. -/
theorem times_of_operateAll (hb : b.status = none) (ops : List Operation) :
    (∀ c ∈ (b.operateAll ops).conditions, ∃ t m,
      (b.operateAll ops).conditions.find? t = some c ∧
      b.LastSetBy ops t c.status m ∧ c.lastTransitionTime = m.reading t) ∧
    ∀ op t, (b.operateAll ops).Retimed op t := by
  refine ⟨fun c hc => ?_, retimed _⟩
  obtain ⟨t, hf⟩ := (listed_operateAll hb ops).find?_of_mem hc
  have hs : (b.operateAll ops).conditions.statusOf? t = some c.status := by
    simp [Conditions.statusOf?, hf]
  obtain ⟨m, hlast, htime⟩ := exists_lastSetBy hb ops hs
  refine ⟨t, m, hf, hlast, ?_⟩
  simpa [Conditions.timeOf?, hf] using htime

def evening : Timestamp := { Timestamp.epoch with hour := 18, hour_lt := by decide }

/-- A clone that fails in the first generation and succeeds twice in the second, before the
generation is set back. -/
def recovery : List Operation :=
  [.mark ⟨.event (.stepFailed .clone), .epoch, morning⟩, .generation (some 2),
    .mark ⟨.event (.stepSucceeded .clone), evening, evening⟩,
    .mark ⟨.event (.stepSucceeded .clone), .epoch, .epoch⟩, .generation (some 1)]

/-- The completion of that build has failed since the morning, its clone has succeeded since the
evening. -/
theorem times_of_recovery : checkout.status = none ∧
    (∃ c ∈ (checkout.operateAll recovery).conditions, c.type = "CloneSucceeded" ∧
      c.observedGeneration = 2 ∧ c.lastTransitionTime = evening ∧
      ∃ t m, checkout.LastSetBy recovery t c.status m ∧ c.lastTransitionTime = m.reading t) ∧
    (∃ c ∈ (checkout.operateAll recovery).conditions, c.type = "Completed" ∧
      c.observedGeneration = 1 ∧ c.lastTransitionTime = morning ∧
      ∃ t m, checkout.LastSetBy recovery t c.status m ∧ c.lastTransitionTime = m.reading t) ∧
    ((checkout.operateAll recovery).operate
      (.mark ⟨.event .accepted, evening, evening⟩)).conditions.timeOf? .cloneSucceeded =
        (checkout.operateAll recovery).conditions.timeOf? .cloneSucceeded := by
  obtain ⟨hlast, hstep⟩ := times_of_operateAll (b := checkout) rfl recovery
  have hclone : (⟨"CloneSucceeded", .holds, "CloneSourceCodeSucceeded",
      "Source code cloning was successful.", 2, evening⟩ : Condition) ∈
        (checkout.operateAll recovery).conditions := by decide
  have hcompletion : (⟨"Completed", .fails, "BuildFailed",
      "Build completed with a failure status", 1, morning⟩ : Condition) ∈
        (checkout.operateAll recovery).conditions := by decide
  refine ⟨rfl, ⟨_, hclone, rfl, rfl, rfl, ?_⟩, ⟨_, hcompletion, rfl, rfl, rfl, ?_⟩, ?_⟩
  · obtain ⟨t, m, -, hm⟩ := hlast _ hclone
    exact ⟨t, m, hm⟩
  · obtain ⟨t, m, -, hm⟩ := hlast _ hcompletion
    exact ⟨t, m, hm⟩
  · exact (hstep (.mark ⟨.event .accepted, evening, evening⟩) .cloneSucceeded).kept (by decide)

end Build
end BuildOperator
