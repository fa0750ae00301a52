import BuildOperator.Cluster.Call
import BuildOperator.Proofs.Composition
/-!
# Status writes

Which of the calls of the operator write the status of a build, and what was written last. A status
is written at the end of a call and only there, so that nothing was written where the call fails.
-/
namespace BuildOperator

def Call.isStatusWrite : Call → Bool
  | .cluster (.patchStatus ..) => true
  | .cluster _ | .publish _ | .deploy .. => false

/-- The writes of a status, in order, with their replies. -/
def statusWrites (xs : List (Exchange Call Call.Answer)) : List (Exchange Call Call.Answer) :=
  xs.filter fun x => x.call.isStatusWrite

/-- The status that an exchange wrote, if it is a write of a status that succeeded. -/
def writtenStatus? : Exchange Call Call.Answer → Option BuildStatus
  | ⟨.cluster (.patchStatus _ _ status), .settled (.ok _)⟩ => some status
  | _ => none

/-- The status that was written last. -/
def lastWritten? (xs : List (Exchange Call Call.Answer)) : Option BuildStatus :=
  (xs.filterMap writtenStatus?).getLast?

section
variable {xs ys : List (Exchange Call Call.Answer)}

@[simp] theorem statusWrites_append :
    statusWrites (xs ++ ys) = statusWrites xs ++ statusWrites ys := List.filter_append ..

theorem statusWrites_eq_nil (h : ∀ x ∈ xs, x.call.isStatusWrite = false) :
    statusWrites xs = [] := by
  simpa [statusWrites] using h

theorem writtenStatus?_of_not_write {x : Exchange Call Call.Answer}
    (h : x.call.isStatusWrite = false) : writtenStatus? x = none := by
  obtain ⟨(call | build | ⟨build, artifact⟩), reply⟩ := x
  · cases call with
    | patchStatus => simp [Call.isStatusWrite] at h
    | get | create | update | delete => rfl
  · rfl
  · rfl

theorem filterMap_statusWrites (xs : List (Exchange Call Call.Answer)) :
    (statusWrites xs).filterMap writtenStatus? = xs.filterMap writtenStatus? := by
  induction xs with
  | nil => rfl
  | cons x xs ih =>
    unfold statusWrites at ih ⊢
    cases hx : x.call.isStatusWrite with
    | true => simp [hx, List.filterMap_cons, ih]
    | false => simp [hx, ih, writtenStatus?_of_not_write hx]

theorem lastWritten?_statusWrites (xs : List (Exchange Call Call.Answer)) :
    lastWritten? (statusWrites xs) = lastWritten? xs :=
  congrArg List.getLast? (filterMap_statusWrites xs)

theorem exists_of_lastWritten? {status : BuildStatus} (h : lastWritten? xs = some status) :
    ∃ x ∈ xs, writtenStatus? x = some status :=
  List.mem_filterMap.mp (List.mem_of_getLast? h)

theorem call_of_writtenStatus? {x : Exchange Call Call.Answer} {status : BuildStatus}
    (h : writtenStatus? x = some status) :
    ∃ space name, x.call = .cluster (.patchStatus space name status) := by
  unfold writtenStatus? at h
  split at h
  · obtain rfl := Option.some.inj h
    exact ⟨_, _, rfl⟩
  · cases h

theorem lastWritten?_append :
    lastWritten? (xs ++ ys) = (lastWritten? ys).or (lastWritten? xs) := by
  simp [lastWritten?, List.filterMap_append, List.getLast?_append]

end

namespace Operator
variable {kinds : List ObjectKind} {settings : Settings} {b b' : Build}
  {xs : List (Exchange Call Call.Answer)}

/-- A status is written by one call for the namespace and the name of the build, unless there is no
namespace, no status, or the token is cancelled. -/
theorem ends_persistStatus_iff {result : Except Failure Unit} :
    ((reconcilerOf kinds settings).persistStatus b).Ends xs result ↔
      match b.metadata.space, b.status with
      | none, _ => xs = [] ∧ result = .error (.missingNamespace "Build" b.displayName)
      | some _, none => xs = [] ∧ result = .ok ()
      | some space, some status =>
        (xs = [] ∧ result = .error (.cancelled ("patch status of build " ++ b.displayName))) ∨
          ∃ reply, xs = [⟨.cluster (.patchStatus space b.displayName status), reply⟩] ∧
            result = reply.resultOf ("patch status of build " ++ b.displayName) := by
  unfold Reconciler.persistStatus
  cases b.metadata.space with
  | none => exact Attempt.ends_throw_iff
  | some space =>
    cases b.status with
    | none => exact Attempt.ends_pure_iff
    | some status => exact Task.ends_race_ask_iff

theorem ends_persistStatus_ok {status : BuildStatus} {u : Unit} (hs : b.status = some status)
    (h : ((reconcilerOf kinds settings).persistStatus b).Ends xs (.ok u)) :
    ∃ space, b.metadata.space = some space ∧
      xs = [⟨.cluster (.patchStatus space b.displayName status), .settled (.ok ())⟩] := by
  rw [ends_persistStatus_iff, hs] at h
  cases hn : b.metadata.space with
  | none =>
    rw [hn] at h
    cases h.2
  | some space =>
    rw [hn] at h
    obtain ⟨_, hr⟩ | ⟨reply, rfl, hr⟩ := h
    · cases hr
    · rcases reply with result | _
      · obtain rfl : result = .ok u := hr.symm
        exact ⟨space, rfl, rfl⟩
      · cases hr

theorem ends_persistStatus_error {f : Failure}
    (h : ((reconcilerOf kinds settings).persistStatus b).Ends xs (.error f)) :
    lastWritten? xs = none := by
  rw [ends_persistStatus_iff] at h
  split at h
  · obtain ⟨rfl, _⟩ := h
    rfl
  · cases h.2
  · obtain ⟨rfl, _⟩ | ⟨reply, rfl, hr⟩ := h
    · rfl
    · rcases reply with (_ | _) | _
      · rfl
      · cases hr
      · rfl

theorem makes_draft (b : Build) : Attempt.Makes (fun call => call.isStatusWrite = false)
    ((reconcilerOf kinds settings).draft b) := by
  have hdeploy (next : Build) (artifact : String) :
      Attempt.Makes (fun call => call.isStatusWrite = false)
        ((reconcilerOf kinds settings).deployArtifact next artifact) :=
    Attempt.composes_makes.deployArtifact Attempt.makes_now
      (Attempt.Makes.result (Task.makes_race_ask rfl)) fun _ => Attempt.makes_throw _
  exact Attempt.composes_makes.draft Attempt.makes_now (Task.makes_race_ask rfl) hdeploy

/-- A publication that succeeds ends with its only write of a status. -/
theorem ends_publishAndDeploy_ok_writes
    (h : ((reconcilerOf kinds settings).publishAndDeploy b).Ends xs (.ok b')) :
    ∃ zs, ((reconcilerOf kinds settings).persistStatus b').Ends zs (.ok ()) ∧
      statusWrites xs = statusWrites zs := by
  rw [Reconciler.publishAndDeploy_eq] at h
  obtain ⟨ys, next, _, hd, hw, rfl⟩ := Attempt.ends_bind_ok_iff.mp h
  obtain ⟨zs, u, _, hp, hn, rfl⟩ := Attempt.ends_bind_ok_iff.mp hw
  obtain ⟨rfl, he⟩ := Attempt.ends_pure_iff.mp hn
  obtain rfl : b' = next := by injection he
  have hy : statusWrites ys = [] := statusWrites_eq_nil (makes_draft b ys _ hd)
  exact ⟨zs, hp, by simp [hy]⟩

theorem ends_publishAndDeploy_error {f : Failure}
    (h : ((reconcilerOf kinds settings).publishAndDeploy b).Ends xs (.error f)) :
    lastWritten? xs = none := by
  have hdraft {ys r} (hd : ((reconcilerOf kinds settings).draft b).Ends ys r) :
      lastWritten? ys = none := by
    rw [← lastWritten?_statusWrites, statusWrites_eq_nil (makes_draft b ys _ hd)]
    rfl
  rw [Reconciler.publishAndDeploy_eq] at h
  rcases Attempt.ends_bind_iff.mp h with ⟨e, hd, _⟩ | ⟨ys, next, zs, hd, hw, rfl⟩
  · exact hdraft hd
  · rw [lastWritten?_append, hdraft hd]
    rcases Attempt.ends_bind_iff.mp hw with ⟨e, hp, _⟩ | ⟨_, u, _, _, hn, _⟩
    · simp [ends_persistStatus_error hp]
    · cases (Attempt.ends_pure_iff.mp hn).2

end Operator

namespace Build
variable {b b' : Build} {e : PipelineEvent} {now later : Timestamp}

theorem status_record (b : Build) (t : ConditionType) (st : ConditionStatus) (remark : Remark)
    (now : Timestamp) : (b.record t st remark now).status =
      some (b.record t st remark now).currentStatus := rfl

theorem status_recordEvent (h : (b.recordEvent e now later).2 = .recorded) :
    (b.recordEvent e now later).1.status = some (b.recordEvent e now later).1.currentStatus := by
  have he := effect_event b e now later
  generalize b.recordEvent e now later = out at h he ⊢
  cases he with
  | finished => cases h
  | accepted | stepSucceeded | stepFailed | image | imageMissing => exact status_record ..

theorem status_mark (h : b.status = some b.currentStatus) (m : Mark) (now later : Timestamp) :
    (b.mark m now later).1.status = some (b.mark m now later).1.currentStatus :=
  mark_induction (P := fun b => b.status = some b.currentStatus)
    (fun b t st remark now _ => status_record b t st remark now) (fun _ _ _ => rfl) h m now later

theorem status_of_artifactPending (h : b.artifactPending = true) :
    b.status = some b.currentStatus := by
  have hc : b.isCompleted = true := by
    unfold artifactPending at h
    exact (Bool.and_eq_true_iff.mp h).1
  unfold isCompleted holds at hc
  split at hc
  · next c hf => exact status_of_find? hf
  · cases hc

theorem displayName_congr (h : b'.metadata = b.metadata) : b'.displayName = b.displayName :=
  congrArg Metadata.displayName h

end Build
end BuildOperator
