import BuildOperator.Proofs.ObjectCalls
import BuildOperator.Proofs.Session
import BuildOperator.Proofs.StatusReplacement
/-!
# Orders

An order is a call of the operator on one build: an event to record, or a reconciliation. It writes
nothing but a status that it recorded on the build that it was given, and if it succeeds it has
written one or had nothing to record. What it records changes few types of conditions.
-/
namespace BuildOperator

inductive Order where
  | event (event : PipelineEvent)
  | reconciliation

namespace Order

def pass (r : Reconciler Call Call.Answer) (b : Build) :
    Order → Pass Call Call.Answer (Except Failure Unit)
  | .event e => (r.recordEvent b e).bind fun out => .done (out.2.map fun _ => ())
  | .reconciliation => (r.reconcile b).run.bind fun result => .done (result.map fun _ => ())

/-- The types of the conditions that a call may write on a build. -/
def types (b : Build) : Order → List ConditionType
  | .event e => (Mark.event e).types
  | .reconciliation =>
    Mark.artifact.types ++ if b.spec.autoDeploy then (Mark.deployment true).types else []

/-- The status that a call makes of a build. -/
inductive Records (b : Build) : Order → BuildStatus → Prop where
  | event {e : PipelineEvent} {now later : Timestamp} {s : BuildStatus}
      (h : (b.mark (.event e) now later).2 = .recorded)
      (hs : (b.mark (.event e) now later).1.status = some s) : Records b (.event e) s
  | artifact {now : Timestamp} {s : BuildStatus} (hp : b.artifactPending = true)
      (ha : b.spec.autoDeploy = false)
      (hs : (b.mark .artifact now now).1.status = some s) : Records b .reconciliation s
  | deployment {now later : Timestamp} {succeeded : Bool} {s : BuildStatus}
      (hp : b.artifactPending = true) (ha : b.spec.autoDeploy = true)
      (hs : ((b.mark .artifact now now).1.mark (.deployment succeeded) later later).1.status =
        some s) : Records b .reconciliation s

/-- A call has nothing to record on a build. -/
def Idle (b : Build) : Order → Prop
  | .event e => ∃ now later reason, (b.mark (.event e) now later).2 = .skipped reason
  | .reconciliation => b.artifactPending = false

end Order

theorem Build.conditions_of_status {b : Build} {s : BuildStatus} (h : b.status = some s) :
    b.conditions = s.conditions := by
  simp [conditions, h]

theorem Build.mark_artifact_of_pending {b : Build} (h : b.artifactPending = true)
    (now : Timestamp) : (b.mark .artifact now now).2 = .recorded ∧
      (b.mark .artifact now now).1.standing? .deployableArtifactCreated = some .holds := by
  have hc := (artifactPending_iff.mp h).1
  rw [mark, recordArtifact_of_completed now hc]
  exact ⟨rfl, standing?_record_self⟩

namespace Order
variable {b : Build} {o : Order} {s : BuildStatus}

theorem Records.conditions_ne_nil (h : o.Records b s) : s.conditions ≠ [] := by
  have hrecorded {b : Build} {m : Mark} {now later : Timestamp}
      (hm : (b.mark m now later).2 = .recorded)
      (hs : (b.mark m now later).1.status = some s) : s.conditions ≠ [] := by
    obtain ⟨s', hs', _, hn⟩ := Build.conditions_of_recorded hm
    obtain rfl : s = s' := by rw [hs] at hs'; exact Option.some.inj hs'
    exact hn
  cases h with
  | event h hs => exact hrecorded h hs
  | @artifact now _ hp _ hs => exact hrecorded (Build.mark_artifact_of_pending hp now).1 hs
  | @deployment now later succeeded _ hp _ hs =>
    have hc := (Build.mark_artifact_of_pending hp now).2
    have hd := Build.recordDeployment_of_artifact later hc succeeded
    exact hrecorded (m := .deployment succeeded) (congrArg Prod.snd hd) hs

theorem Records.find?_of_not_mem (h : o.Records b s) {t : ConditionType} (ht : t ∉ o.types b) :
    s.conditions.find? t = b.conditions.find? t := by
  cases h with
  | event h hs =>
    rw [← Build.conditions_of_status hs]
    exact b.find?_mark_of_not_mem ht _ _
  | artifact hp ha hs =>
    have hm : t ∉ Mark.artifact.types := fun hm => ht (List.mem_append_left _ hm)
    rw [← Build.conditions_of_status hs]
    exact b.find?_mark_of_not_mem hm _ _
  | @deployment now later succeeded _ hp ha hs =>
    rw [types, if_pos ha] at ht
    have hm : t ∉ Mark.artifact.types := fun hm => ht (List.mem_append_left _ hm)
    have hd : t ∉ (Mark.deployment succeeded).types := fun hm => ht (List.mem_append_right _ hm)
    rw [← Build.conditions_of_status hs, ← b.find?_mark_of_not_mem hm]
    exact Build.find?_mark_of_not_mem _ hd _ _

theorem Records.mem_types (h : o.Records b s) {t : ConditionType}
    (ht : s.conditions.find? t ≠ b.conditions.find? t) : t ∈ o.types b :=
  Decidable.byContradiction fun hm => ht (h.find?_of_not_mem hm)

end Order

namespace Operator
variable {kinds : List ObjectKind} {settings : Settings} {b : Build}
  {xs : List (Exchange Call Call.Answer)} {x : Exchange Call Call.Answer} {space name : String}
  {s : BuildStatus}

theorem makes_reconcileResources : Attempt.Makes (fun call => call.isStatusWrite = false)
    ((reconcilerOf kinds settings).reconcileResources b) := by
  refine (makes_reconcileResources_key kinds settings b).imp fun call h => ?_
  obtain ⟨_, _, hkey⟩ := h
  cases call with
  | cluster call =>
    cases call with
    | get | create | update | delete => rfl
    | patchStatus => cases hkey
  | publish | deploy => rfl

theorem status_of_persistStatus {result : Except Failure Unit}
    (h : ((reconcilerOf kinds settings).persistStatus b).Ends xs result) (hx : x ∈ xs)
    (hc : x.call = .cluster (.patchStatus space name s)) : b.status = some s := by
  rw [ends_persistStatus_iff] at h
  split at h
  · rw [h.1] at hx
    cases hx
  · rw [h.1] at hx
    cases hx
  · next status hs =>
    obtain ⟨rfl, _⟩ | ⟨reply, rfl, _⟩ := h
    · cases hx
    · obtain rfl := List.mem_singleton.mp hx
      rw [hs]
      injection hc with hc
      injection hc with _ _ hc
      rw [hc]

theorem not_mem_of_makes {α : Type} {a : Attempt Call Call.Answer α} {r : Except Failure α}
    (ha : a.Makes fun call => call.isStatusWrite = false) (he : a.Ends xs r)
    (hc : x.call = .cluster (.patchStatus space name s)) : x ∉ xs := by
  intro hx
  have hno := ha xs r he x hx
  rw [hc] at hno
  cases hno

theorem records_of_publication {result : Except Failure Build} (hp : b.artifactPending = true)
    (h : ((reconcilerOf kinds settings).publishAndDeploy b).Ends xs result) (hx : x ∈ xs)
    (hc : x.call = .cluster (.patchStatus space name s)) : Order.reconciliation.Records b s := by
  rw [Reconciler.publishAndDeploy_eq] at h
  rcases Attempt.ends_bind_iff.mp h with ⟨_, hd, _⟩ | ⟨ys, next, zs, hd, hw, rfl⟩
  · exact absurd hx (not_mem_of_makes (makes_draft b) hd hc)
  · have hy : x ∉ ys := not_mem_of_makes (makes_draft b) hd hc
    have hz : x ∈ zs := (List.mem_append.mp hx).resolve_left hy
    obtain ⟨_, hpersist, _⟩ := Attempt.ends_bind_pure_iff.mp hw
    have hs : next.status = some s := status_of_persistStatus hpersist hz hc
    obtain ⟨now, ⟨ha, rfl⟩ | ⟨ha, succeeded, later, rfl⟩⟩ := Reconciler.ends_draft_ok hd
    · exact .artifact hp ha hs
    · exact .deployment hp ha hs

end Operator

namespace Order
variable {kinds : List ObjectKind} {settings : Settings} {b : Build} {o : Order}
  {xs : List (Exchange Call Call.Answer)}

theorem ends_pass {r : Reconciler Call Call.Answer} {result : Except Failure Unit}
    (h : (o.pass r b).Ends xs result) :
    (∃ e b' t, o = .event e ∧ (r.recordEvent b e).Ends xs (b', t) ∧ result = t.map fun _ => ()) ∨
      ∃ t, o = .reconciliation ∧ (r.reconcile b).Ends xs t ∧ result = t.map fun _ => () := by
  cases o with
  | event e =>
    obtain ⟨ys, out, _, he, hd, rfl⟩ := Pass.ends_bind_iff.mp h
    obtain ⟨rfl, hr⟩ := Pass.ends_done_iff.mp hd
    rw [List.append_nil]
    exact Or.inl ⟨e, out.1, out.2, rfl, he, hr⟩
  | reconciliation =>
    obtain ⟨ys, t, _, ht, hd, rfl⟩ := Pass.ends_bind_iff.mp h
    obtain ⟨rfl, hr⟩ := Pass.ends_done_iff.mp hd
    rw [List.append_nil]
    exact Or.inr ⟨t, rfl, ht, hr⟩

/-- A call writes nothing but what it recorded. -/
theorem records_of_write {x : Exchange Call Call.Answer} {space name : String} {s : BuildStatus}
    {result : Except Failure Unit}
    (h : (o.pass (Operator.reconcilerOf kinds settings) b).Ends xs result) (hx : x ∈ xs)
    (hc : x.call = .cluster (.patchStatus space name s)) : o.Records b s := by
  obtain ⟨e, b', t, rfl, he, _⟩ | ⟨t, rfl, ht, _⟩ := ends_pass h
  · obtain ⟨now, later, hm⟩ := Reconciler.ends_recordEvent_iff.mp he
    split at hm
    · rw [hm.1] at hx
      cases hx
    · next next hn =>
      have hs : next.status = some s := by
        obtain ⟨_, hp, _⟩ | ⟨_, hp, _⟩ := hm
        · exact Operator.status_of_persistStatus hp hx hc
        · exact Operator.status_of_persistStatus hp hx hc
      have hmark : b.mark (.event e) now later = (next, .recorded) := hn
      exact .event (congrArg Prod.snd hmark) (by rw [hmark]; exact hs)
  · rw [Reconciler.reconcile_eq] at ht
    obtain ⟨_, hr, _⟩ | ⟨ys, _, zs, hr, hrest, rfl⟩ := Attempt.ends_bind_iff.mp ht
    · exact absurd hx (Operator.not_mem_of_makes Operator.makes_reconcileResources hr hc)
    · have hy : x ∉ ys := Operator.not_mem_of_makes Operator.makes_reconcileResources hr hc
      have hz : x ∈ zs := (List.mem_append.mp hx).resolve_left hy
      split at hrest
      · next hp =>
        obtain ⟨_, hpublication, _⟩ := Attempt.ends_bind_pure_iff.mp hrest
        exact Operator.records_of_publication hp hpublication hz hc
      · rw [(Attempt.ends_pure_iff.mp hrest).1] at hz
        cases hz

theorem lastWritten?_of_recorded {request : Request} {b' : Build}
    (h : ((Operator.reconcilerOf kinds settings).serve b request).Ends xs (b', .ok .recorded)) :
    lastWritten? xs ≠ none := by
  obtain ⟨space, status, _, _, hx⟩ := Operator.statusWrites_of_recorded h
  rw [← lastWritten?_statusWrites, hx]
  simp [lastWritten?, writtenStatus?]

/-- A call that succeeds has written a status, unless it had nothing to record. -/
theorem written_of_ok (h : (o.pass (Operator.reconcilerOf kinds settings) b).Ends xs (.ok ())) :
    o.Idle b ∨ lastWritten? xs ≠ none := by
  obtain ⟨e, b', t, rfl, he, ht⟩ | ⟨t, rfl, ht, hr⟩ := ends_pass h
  · rcases t with f | _ | reason
    · cases ht
    · have hs : ((Operator.reconcilerOf kinds settings).serve b (.event e)).Ends xs
          (b', .ok .recorded) := he
      exact Or.inr (lastWritten?_of_recorded hs)
    · obtain ⟨now, later, hm, _⟩ := Reconciler.ends_recordEvent_ok he
      exact Or.inl ⟨now, later, reason, congrArg Prod.snd hm⟩
  · cases hp : b.artifactPending with
    | false => exact Or.inl hp
    | true =>
      right
      obtain ⟨action, rfl⟩ : ∃ action, t = .ok action := by
        cases t with
        | error f => cases hr
        | ok action => exact ⟨action, rfl⟩
      rw [Reconciler.reconcile_eq, if_pos hp] at ht
      obtain ⟨ys, _, _, _, hrest, rfl⟩ := Attempt.ends_bind_ok_iff.mp ht
      obtain ⟨zs, next, _, hpub, hn, rfl⟩ := Attempt.ends_bind_ok_iff.mp hrest
      have hrecorded : ((Operator.reconcilerOf kinds settings).serve b .publication).Ends zs
          (next, .ok .recorded) := by
        refine Reconciler.ends_publishArtifact_iff.mpr ?_
        rw [if_pos hp]
        exact Or.inl ⟨next, hpub, rfl⟩
      have hwritten := lastWritten?_of_recorded hrecorded
      rw [(Attempt.ends_pure_iff.mp hn).1, List.append_nil, lastWritten?_append]
      cases hz : lastWritten? zs with
      | none => exact absurd hz hwritten
      | some status => simp

end Order

end BuildOperator
