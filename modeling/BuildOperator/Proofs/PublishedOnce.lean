import BuildOperator.Proofs.CheckpointOrder
import BuildOperator.Proofs.Session
import BuildOperator.Proofs.TerminalCompletion
/-!
# An artifact is published once

For each generation of a build at most one publication is recorded, and from then on neither the
publisher nor what applies deployments is called for that generation again. It is published what the
pipeline completed with, and it is deployed what was published. A log tells of all requests to a
build; what stands on the build is told by the log.
-/
namespace BuildOperator

/-- A request to a build: the build before it, the calls that were made for it, the build after it
and the answer. -/
structure Episode where
  before : Build
  request : Request
  exchanges : List (Exchange Call Call.Answer)
  after : Build
  result : Except Failure Transition

namespace Episode

/-- It is recorded that the pipeline completed this generation with an image. -/
structure Completes (e : Episode) (generation : Int64) (image : String) : Prop where
  generation : e.before.generation = generation
  recorded : e.result = .ok .recorded
  event : ∃ output, e.request = .event (.succeeded output) ∧ output.image? = some image

structure Publishes (e : Episode) (generation : Int64) : Prop where
  generation : e.before.generation = generation
  recorded : e.result = .ok .recorded
  request : e.request = .publication

end Episode

/-- The requests to a build and the build after them. Each request may end in any way, and between
requests the build may be edited: its status stays, and its generation does not fall. -/
inductive Life (r : Reconciler Call Call.Answer) (b : Build) : List Episode → Build → Prop where
  | start : Life r b [] b
  | serve {log : List Episode} {e : Episode} (h : Life r b log e.before)
      (hs : (r.serve e.before e.request).Ends e.exchanges (e.after, e.result)) :
      Life r b (log ++ [e]) e.after
  | edit {log : List Episode} {b₁ b₂ : Build} (h : Life r b log b₁) (hs : b₂.status = b₁.status)
      (hg : b₁.generation ≤ b₂.generation) : Life r b log b₂

theorem Life.at {r : Reconciler Call Call.Answer} {b b' : Build} {log pre post : List Episode}
    {e : Episode} (h : Life r b log b') (hl : log = pre ++ e :: post) :
    Life r b pre e.before ∧
      (r.serve e.before e.request).Ends e.exchanges (e.after, e.result) := by
  induction h generalizing post with
  | start => simp at hl
  | edit _ _ _ ih => exact ih hl
  | serve h hs ih =>
    obtain ⟨ws, hlog, _⟩ | ⟨rfl, rfl, _⟩ := concat_eq_append_cons_iff.mp hl
    · exact ih hlog
    · exact ⟨h, hs⟩

namespace Build
variable {b b' : Build} {image : String}

/-- The pipeline completed this generation of the build with an image. -/
def CompletedWith (b : Build) (image : String) : Prop :=
  b.standing? .completed = some .holds ∧ b.image? = some image

/-- The artifact of this generation of the build was published. -/
def Published (b : Build) : Prop := b.standing? .deployableArtifactCreated = some .holds

theorem completedWith_record {t : ConditionType} (ht : t ≠ .completed) (st : ConditionStatus)
    (remark : Remark) (now : Timestamp) :
    (b.record t st remark now).CompletedWith image ↔ b.CompletedWith image := by
  unfold CompletedWith
  rw [standing?_record_of_ne ht.symm, image?_record]

theorem not_completedWith_fails (b : Build) (remark : Remark) (now : Timestamp) :
    ¬ (b.record .completed .fails remark now).CompletedWith image := by
  simp [CompletedWith]

theorem not_completedWith_of_unfinished (h : b.finished? = none) : ¬ b.CompletedWith image :=
  fun hc => (finished?_eq_none_iff.mp h).1 hc.1

theorem completedWith_recordEvent {e : PipelineEvent} {now later : Timestamp}
    (h : b.recordEvent e now later = (b', .recorded)) : b'.CompletedWith image ↔
      b.CompletedWith image ∨ ∃ output, e = .succeeded output ∧ output.image? = some image := by
  have hm := effect_event b e now later
  rw [h] at hm
  cases hm with
  | accepted => simp [completedWith_record]
  | stepSucceeded hf step => simp [completedWith_record]
  | stepFailed hf step => simp [not_completedWith_fails, not_completedWith_of_unfinished hf]
  | imageMissing hf hi =>
    simp [not_completedWith_fails, not_completedWith_of_unfinished hf, hi]
  | @image output image' hf hi =>
    have hne := PipelineOutput.image?_ne_empty hi
    have hnot : ¬ b.CompletedWith image := not_completedWith_of_unfinished hf
    have hrecorded : ((b.recordImage image').record .completed .holds .completed now).CompletedWith
        image ↔ image' = image := by
      unfold CompletedWith
      rw [standing?_record_self, image?_record, image?_eq_some_iff, imageStatus_recordImage]
      constructor
      · rintro ⟨_, he, _⟩
        exact he
      · rintro rfl
        exact ⟨rfl, rfl, hne⟩
    rw [hrecorded]
    simp [hnot, hi]

theorem published_recordEvent {e : PipelineEvent} {now later : Timestamp}
    (h : b.recordEvent e now later = (b', .recorded)) : b'.Published ↔ b.Published := by
  have hm := effect_event b e now later
  rw [h] at hm
  unfold Published
  cases hm with
  | accepted | stepSucceeded | stepFailed | image | imageMissing => simp [standing?_record]

section
variable {now : Timestamp} (hc : b.standing? .completed = some .holds)
  (h : b' = (b.recordArtifact now).1 ∨ ∃ succeeded later,
    b' = ((b.recordArtifact now).1.recordDeployment succeeded later).1)
include hc h

theorem eq_record_of_artifact : ∃ b₁ : Build,
    b₁ = b.record .deployableArtifactCreated .holds .artifactCreated now ∧
      (b' = b₁ ∨ ∃ st remark later, b' = b₁.record .deploymentApplied st remark later) := by
  rw [recordArtifact_of_completed now hc] at h
  refine ⟨_, rfl, ?_⟩
  obtain rfl | ⟨succeeded, later, rfl⟩ := h
  · exact Or.inl rfl
  · rw [recordDeployment_of_artifact later standing?_record_self]
    cases succeeded with
    | true => exact Or.inr ⟨_, _, _, rfl⟩
    | false => exact Or.inr ⟨_, _, _, rfl⟩

theorem published_of_artifact : b'.Published := by
  unfold Published
  obtain ⟨b₁, rfl, rfl | ⟨st, remark, later, rfl⟩⟩ := eq_record_of_artifact hc h
  · simp
  · simp [standing?_record]

theorem completedWith_of_artifact : b'.CompletedWith image ↔ b.CompletedWith image := by
  obtain ⟨b₁, rfl, rfl | ⟨st, remark, later, rfl⟩⟩ := eq_record_of_artifact hc h
  · simp [completedWith_record]
  · simp [completedWith_record]

end

end Build

namespace Reconciler
variable {Q : Type} {A : Q → Type} {r : Reconciler Q A} {b b' : Build} {request : Request}
  {xs : List (Exchange Q A)}

theorem eq_of_not_recorded {result : Except Failure Transition}
    (h : (r.serve b request).Ends xs (b', result)) (hr : result ≠ .ok .recorded) : b' = b := by
  rcases result with f | _ | reason
  · exact (ends_serve_error h).1
  · exact absurd rfl hr
  · exact (ends_serve_skipped h).1

theorem ends_publishArtifact_recorded (h : (r.publishArtifact b).Ends xs (b', .ok .recorded)) :
    b.artifactPending = true ∧ (r.publishAndDeploy b).Ends xs (.ok b') := by
  have hm := ends_publishArtifact_iff.mp h
  split at hm
  · next hp =>
    rcases hm with ⟨next, hn, ho⟩ | ⟨_, _, ho⟩
    · obtain rfl : b' = next := congrArg Prod.fst ho
      exact ⟨hp, hn⟩
    · simp at ho
  · simp at hm

theorem completedWith_serve_iff {image : String} {result : Except Failure Transition}
    (h : (r.serve b request).Ends xs (b', result)) : b'.CompletedWith image ↔
      b.CompletedWith image ∨ result = .ok .recorded ∧
        ∃ output, request = .event (.succeeded output) ∧ output.image? = some image := by
  by_cases hr : result = .ok .recorded
  · subst hr
    cases request with
    | event e =>
      obtain ⟨now, later, he, _⟩ := ends_recordEvent_ok h
      rw [Build.completedWith_recordEvent he]
      simp
    | publication =>
      obtain ⟨hp, hn⟩ := ends_publishArtifact_recorded h
      obtain ⟨now, hmark⟩ := ends_publishAndDeploy_ok hn
      rw [Build.completedWith_of_artifact (Build.artifactPending_iff.mp hp).1 hmark]
      simp
  · rw [eq_of_not_recorded h hr]
    simp [hr]

theorem published_serve_iff {result : Except Failure Transition}
    (h : (r.serve b request).Ends xs (b', result)) :
    b'.Published ↔ b.Published ∨ result = .ok .recorded ∧ request = .publication := by
  by_cases hr : result = .ok .recorded
  · subst hr
    cases request with
    | event e =>
      obtain ⟨now, later, he, _⟩ := ends_recordEvent_ok h
      rw [Build.published_recordEvent he]
      simp
    | publication =>
      obtain ⟨hp, hn⟩ := ends_publishArtifact_recorded h
      obtain ⟨now, hmark⟩ := ends_publishAndDeploy_ok hn
      have hpub := Build.published_of_artifact (Build.artifactPending_iff.mp hp).1 hmark
      simp [hpub]
  · rw [eq_of_not_recorded h hr]
    simp [hr]

end Reconciler

theorem Build.Marked.preserves {b b' : Build} (h : Relation.ReflTransGen Build.Marked b b')
    (hb : b.Tidy ∧ b.Grounded) :
    b'.Tidy ∧ b'.Grounded ∧ b'.generation = b.generation := by
  induction h with
  | refl => exact ⟨hb.1, hb.2, rfl⟩
  | @tail b₁ _ _ hm ih =>
    obtain ⟨ht, hg, he⟩ := ih
    cases hm with
    | mark m now later =>
      have hgeneration := Build.generation_mark b₁ m now later
      exact ⟨ht.mark m now later, hg.mark m now later, hgeneration.trans he⟩

theorem Reconciler.served_of_ends {Q : Type} {A : Q → Type} {r : Reconciler Q A} {b b' : Build}
    {request : Request} {xs : List (Exchange Q A)} {result : Except Failure Transition}
    (h : (r.serve b request).Ends xs (b', result)) : Build.Served b b' := by
  cases request with
  | event e => exact .event r h
  | publication => exact .publication r h

/-- What stands on a build for its generation is what the log tells of this generation. -/
structure Told (log : List Episode) (b : Build) : Prop where
  tidy : b.Tidy
  grounded : b.Grounded
  past : ∀ e ∈ log, e.before.generation ≤ b.generation
  completed : ∀ image, b.CompletedWith image ↔ ∃ e ∈ log, e.Completes b.generation image
  published : b.Published ↔ ∃ e ∈ log, e.Publishes b.generation

namespace Told
variable {r : Reconciler Call Call.Answer} {b b' : Build} {log : List Episode} {e : Episode}

theorem start (h : b.status = none) : Told [] b := by
  obtain ⟨ht, hg⟩ := Build.tidy_grounded_of_status_none h
  have hs (t : ConditionType) : b.standing? t = none := by
    simp [Build.standing?, Build.current?, Build.conditions, h]
  refine ⟨ht, hg, by simp, ?_, ?_⟩
  · simp [Build.CompletedWith, hs]
  · simp [Build.Published, hs]

theorem serve (h : Told log e.before)
    (hs : (r.serve e.before e.request).Ends e.exchanges (e.after, e.result)) :
    Told (log ++ [e]) e.after := by
  obtain ⟨ht, hg, he⟩ :=
    Build.Marked.preserves (Reconciler.served_of_ends hs).marked ⟨h.tidy, h.grounded⟩
  refine ⟨ht, hg, ?_, fun image => ?_, ?_⟩
  · rw [he]
    intro e' hm
    rcases List.mem_append.mp hm with hm | hm
    · exact h.past e' hm
    · obtain rfl := List.mem_singleton.mp hm
      exact Int64.le_refl _
  · have hlast : e.Completes e.before.generation image ↔ e.result = .ok .recorded ∧
        ∃ output, e.request = .event (.succeeded output) ∧ output.image? = some image :=
      ⟨fun hc => ⟨hc.recorded, hc.event⟩, fun hc => ⟨rfl, hc.1, hc.2⟩⟩
    rw [Reconciler.completedWith_serve_iff hs, h.completed, ← hlast, he]
    simp [or_and_right, exists_or]
  · have hlast : e.Publishes e.before.generation ↔
        e.result = .ok .recorded ∧ e.request = .publication :=
      ⟨fun hp => ⟨hp.recorded, hp.request⟩, fun hp => ⟨rfl, hp.1, hp.2⟩⟩
    rw [Reconciler.published_serve_iff hs, h.published, ← hlast, he]
    simp [or_and_right, exists_or]

theorem edit (h : Told log b) (hs : b'.status = b.status) (hg : b.generation ≤ b'.generation) :
    Told log b' := by
  have hpast (e : Episode) (hm : e ∈ log) : e.before.generation ≤ b'.generation :=
    Int64.le_trans (h.past e hm) hg
  have hi : b'.image? = b.image? := by rw [Build.image?, Build.image?, hs]
  refine ⟨h.tidy.of_status hs hg, h.grounded.of_status h.tidy hs hg, hpast, fun image => ?_, ?_⟩
  · obtain ⟨he, hst⟩ | ⟨hlt, hst⟩ := h.tidy.standing?_of_status hs hg
    · rw [← he, ← h.completed, Build.CompletedWith, hst, hi]
      rfl
    · have hnone : ¬ ∃ e ∈ log, e.Completes b'.generation image := by
        rintro ⟨e, hm, hc⟩
        exact Int64.not_le.mpr hlt (hc.generation ▸ h.past e hm)
      simp [Build.CompletedWith, hst, hnone]
  · obtain ⟨he, hst⟩ | ⟨hlt, hst⟩ := h.tidy.standing?_of_status hs hg
    · rw [← he, ← h.published, Build.Published, hst]
      rfl
    · have hnone : ¬ ∃ e ∈ log, e.Publishes b'.generation := by
        rintro ⟨e, hm, hp⟩
        exact Int64.not_le.mpr hlt (hp.generation ▸ h.past e hm)
      simp [Build.Published, hst, hnone]

/-- An artifact that is pending is that of the one image that this generation completed with. -/
theorem of_artifactPending (h : Told log b) (hp : b.artifactPending = true) :
    (¬ ∃ e ∈ log, e.Publishes b.generation) ∧ ∃ image, b.image? = some image ∧
      ∃ e ∈ log, e.Completes b.generation image := by
  obtain ⟨hc, hn⟩ := Build.artifactPending_iff.mp hp
  obtain ⟨image, hi⟩ := h.grounded.image hc
  exact ⟨fun he => hn (h.published.mpr he), image, hi, (h.completed image).mp ⟨hc, hi⟩⟩

end Told

theorem Life.told {r : Reconciler Call Call.Answer} {b b' : Build} {log : List Episode}
    (h : Life r b log b') (hb : b.status = none) : Told log b' := by
  induction h with
  | start => exact .start hb
  | serve _ hs ih => exact ih.serve hs
  | edit _ hs hg ih => exact ih.edit hs hg

/-- What is called before a publication writes the status: nothing, the publisher, or the publisher
and then, with the name that it answered, what applies deployments. -/
inductive Drafted (b : Build) : List (Exchange Call Call.Answer) → Prop where
  | idle : Drafted b []
  | published (reply : Reply String) : Drafted b [⟨.publish b, reply⟩]
  | deployed (given : Build) (artifact : String) (reply : Reply Unit)
      (h : b.spec.autoDeploy = true) :
      Drafted b [⟨.publish b, .settled (.ok artifact)⟩, ⟨.deploy given artifact, reply⟩]

namespace Operator
variable {kinds : List ObjectKind} {settings : Settings} {b : Build}
  {xs : List (Exchange Call Call.Answer)}

theorem makes_persistStatus (b : Build) : Attempt.Makes (fun call => call.isStatusWrite = true)
    ((reconcilerOf kinds settings).persistStatus b) :=
  Attempt.composes_makes.persistStatus (Attempt.makes_throw _) fun _ _ => Task.makes_race_ask rfl

theorem ends_deployArtifact_calls {artifact : String} {result : Except Failure Build}
    (h : ((reconcilerOf kinds settings).deployArtifact b artifact).Ends xs result) :
    xs = [] ∨ ∃ reply, xs = [⟨.deploy b artifact, reply⟩] := by
  obtain ⟨_, hd, _⟩ := Reconciler.ends_deployArtifact_iff.mp h
  obtain ⟨rfl, _⟩ | ⟨reply, rfl, _⟩ := Task.ends_race_ask_iff.mp hd
  · exact Or.inl rfl
  · exact Or.inr ⟨reply, rfl⟩

theorem ends_draft_calls {result : Except Failure Build}
    (h : ((reconcilerOf kinds settings).draft b).Ends xs result) : Drafted b xs := by
  obtain ⟨_, hp, _⟩ | ⟨_, artifact, _, hp, hrest, rfl⟩ := Attempt.ends_bind_iff.mp h
  · obtain ⟨rfl, _⟩ | ⟨reply, rfl, _⟩ := Task.ends_race_ask_iff.mp hp
    · exact .idle
    · exact .published reply
  · obtain ⟨_, hr⟩ | ⟨_, rfl, hr⟩ := Task.ends_race_ask_iff.mp hp
    · cases hr
    obtain rfl := Reply.resultOf_eq_ok_iff.mp hr.symm
    obtain ⟨_, hn, _⟩ | ⟨_, now, _, hn, hmark, rfl⟩ := Attempt.ends_bind_iff.mp hrest
    · obtain ⟨_, _, hn⟩ := Attempt.ends_now_iff.mp hn
      cases hn
    obtain ⟨rfl, _⟩ := Attempt.ends_now_iff.mp hn
    dsimp only at hmark
    split at hmark
    · next hauto =>
      have hd : b.spec.autoDeploy = true := by
        rwa [← Build.spec_mark b .artifact now now]
      obtain rfl | ⟨reply, rfl⟩ := ends_deployArtifact_calls hmark
      · exact .published _
      · exact .deployed _ artifact reply hd
    · obtain ⟨rfl, _⟩ := Attempt.ends_pure_iff.mp hmark
      exact .published _

theorem ends_publishArtifact_calls {out : Build × Except Failure Transition}
    (h : ((reconcilerOf kinds settings).publishArtifact b).Ends xs out) :
    xs = [] ∨ b.artifactPending = true ∧ ∃ ys zs, xs = ys ++ zs ∧ Drafted b ys ∧
      ∀ z ∈ zs, z.call.isStatusWrite = true := by
  have hm := Reconciler.ends_publishArtifact_iff.mp h
  split at hm
  · next hpending =>
    obtain ⟨result, hp⟩ : ∃ result, ((reconcilerOf kinds settings).publishAndDeploy b).Ends xs
        result := by
      obtain ⟨next, hp, _⟩ | ⟨f, hp, _⟩ := hm
      · exact ⟨_, hp⟩
      · exact ⟨_, hp⟩
    refine Or.inr ⟨hpending, ?_⟩
    rw [Reconciler.publishAndDeploy_eq] at hp
    obtain ⟨_, hd, _⟩ | ⟨ys, next, zs, hd, hw, rfl⟩ := Attempt.ends_bind_iff.mp hp
    · exact ⟨xs, [], by simp, ends_draft_calls hd, by simp⟩
    · have hwrites : Attempt.Makes (fun call => call.isStatusWrite = true)
          ((reconcilerOf kinds settings).persistStatus next >>= fun _ => pure next) :=
        (makes_persistStatus next).bind fun _ => Attempt.makes_pure next
      exact ⟨ys, zs, rfl, ends_draft_calls hd, hwrites zs _ hw⟩
  · exact Or.inl hm.1

theorem makes_recordEvent {e : PipelineEvent} {out : Build × Except Failure Transition}
    (h : ((reconcilerOf kinds settings).recordEvent b e).Ends xs out) :
    ∀ x ∈ xs, x.call.isStatusWrite = true := by
  obtain ⟨now, later, hm⟩ := Reconciler.ends_recordEvent_iff.mp h
  split at hm
  · rw [hm.1]
    simp
  · obtain ⟨_, hp, _⟩ | ⟨_, hp, _⟩ := hm
    · exact makes_persistStatus _ _ _ hp
    · exact makes_persistStatus _ _ _ hp

section
variable {request : Request} {out : Build × Except Failure Transition}
  (h : ((reconcilerOf kinds settings).serve b request).Ends xs out)
  {x : Exchange Call Call.Answer} (hx : x ∈ xs) (hw : x.call.isStatusWrite = false)
include h hx hw

/-- Only a publication of a pending artifact calls something else than a write of the status. -/
theorem drafted_of_call : request = .publication ∧ b.artifactPending = true ∧
    ∃ ys zs, xs = ys ++ zs ∧ Drafted b ys ∧ x ∈ ys ∧ ∀ z ∈ zs, z.call.isStatusWrite = true := by
  cases request with
  | event e =>
    have hwrite := makes_recordEvent h x hx
    rw [hw] at hwrite
    cases hwrite
  | publication =>
    obtain rfl | ⟨hp, ys, zs, rfl, hd, hz⟩ := ends_publishArtifact_calls h
    · cases hx
    · refine ⟨rfl, hp, ys, zs, rfl, hd, ?_, hz⟩
      rcases List.mem_append.mp hx with hy | hmem
      · exact hy
      · have hwrite := hz x hmem
        rw [hw] at hwrite
        cases hwrite

theorem given_of_publish {given : Build} (hc : x.call = .publish given) : given = b := by
  obtain ⟨_, _, ys, _, _, hd, hy, _⟩ := drafted_of_call h hx hw
  cases hd with
  | idle => cases hy
  | published reply =>
    obtain rfl := List.mem_singleton.mp hy
    injection hc with hc
    exact hc.symm
  | deployed _ artifact reply _ =>
    obtain rfl | rfl := (by simpa using hy : x = _ ∨ x = _)
    · injection hc with hc
      exact hc.symm
    · cases hc

/-- A deployment is of the artifact that was just published, and nothing else follows it. -/
theorem published_of_deploy {given : Build} {artifact : String}
    (hc : x.call = .deploy given artifact) : b.spec.autoDeploy = true ∧ ∃ reply zs,
      xs = ⟨.publish b, .settled (.ok artifact)⟩ :: ⟨.deploy given artifact, reply⟩ :: zs ∧
        ∀ z ∈ zs, z.call.isStatusWrite = true := by
  obtain ⟨_, _, ys, zs, rfl, hd, hy, hz⟩ := drafted_of_call h hx hw
  cases hd with
  | idle => cases hy
  | published reply =>
    obtain rfl := List.mem_singleton.mp hy
    cases hc
  | deployed _ artifact' reply hauto =>
    obtain rfl | rfl := (by simpa using hy : x = _ ∨ x = _)
    · cases hc
    · injection hc with hg ha
      subst hg ha
      exact ⟨hauto, reply, zs, rfl, hz⟩

end
end Operator

section
variable {kinds : List ObjectKind} {settings : Settings} {b b' : Build}
  {pre post : List Episode} {e : Episode}

/-- Once a publication is recorded, later requests for its generation publish and deploy nothing. -/
theorem Life.quiet_after_publication (hb : b.status = none)
    (h : Life (Operator.reconcilerOf kinds settings) b (pre ++ e :: post) b')
    (hp : e.Publishes e.before.generation) {e' : Episode} (hm : e' ∈ post)
    (hg : e'.before.generation = e.before.generation) :
    ¬ e'.Publishes e.before.generation ∧ ∀ x ∈ e'.exchanges, x.call.isStatusWrite = true := by
  obtain ⟨p₁, p₂, rfl⟩ := List.append_of_mem hm
  have hsplit : pre ++ e :: (p₁ ++ e' :: p₂) = (pre ++ e :: p₁) ++ e' :: p₂ := by simp
  obtain ⟨hlife, hs⟩ := h.at hsplit
  have hpublished : ∃ e'' ∈ pre ++ e :: p₁, e''.Publishes e'.before.generation :=
    ⟨e, by simp, hg ▸ hp⟩
  have hpending : e'.before.artifactPending ≠ true := by
    intro hpending
    exact ((hlife.told hb).of_artifactPending hpending).1 hpublished
  constructor
  · intro hp'
    have hrequest := hp'.request
    have hresult := hp'.recorded
    rw [hrequest, hresult] at hs
    exact hpending (Reconciler.ends_publishArtifact_recorded hs).1
  · intro x hx
    by_contra hw
    exact hpending (Operator.drafted_of_call hs hx (by simpa using hw)).2.1

/-- In the life of a build that had no status, the publisher is called only by a publication, before
one was recorded for this generation, and with the image that this generation completed with. A
deployment is called for only where the build asks for it, and only right after the publisher, for
the artifact that it answered. After a publication that is recorded no request for this generation
publishes or deploys anything, and after one that fails the artifact is still pending. -/
theorem published_once_of_life (hb : b.status = none)
    (h : Life (Operator.reconcilerOf kinds settings) b (pre ++ e :: post) b') :
    (∀ x ∈ e.exchanges, ∀ given, x.call = .publish given →
      e.request = .publication ∧ given = e.before ∧
      (∀ e' ∈ pre, ¬ e'.Publishes e.before.generation) ∧
      ∃ image, given.image? = some image ∧ image ≠ "" ∧
        (∃ e' ∈ pre, e'.Completes e.before.generation image) ∧
        ∀ e' ∈ pre, ∀ image', e'.Completes e.before.generation image' → image' = image) ∧
    (∀ x ∈ e.exchanges, ∀ given artifact, x.call = .deploy given artifact →
      e.before.spec.autoDeploy = true ∧ ∃ reply zs,
        e.exchanges =
          ⟨.publish e.before, .settled (.ok artifact)⟩ :: ⟨.deploy given artifact, reply⟩ :: zs ∧
        ∀ z ∈ zs, z.call.isStatusWrite = true) ∧
    (e.Publishes e.before.generation →
      ∀ e' ∈ post, e'.before.generation = e.before.generation →
        ¬ e'.Publishes e.before.generation ∧ ∀ x ∈ e'.exchanges, x.call.isStatusWrite = true) ∧
    ∀ f, e.result = .error f →
      e.after = e.before ∧ (e.request = .publication → e.after.artifactPending = true) := by
  obtain ⟨hlife, hs⟩ := h.at rfl
  have htold : Told pre e.before := hlife.told hb
  refine ⟨?_, ?_, fun hp e' => h.quiet_after_publication hb hp, ?_⟩
  · intro x hx given hc
    have hw : x.call.isStatusWrite = false := by rw [hc, Call.isStatusWrite]
    obtain ⟨hrequest, hpending, _⟩ := Operator.drafted_of_call hs hx hw
    obtain rfl := Operator.given_of_publish hs hx hw hc
    obtain ⟨hnone, image, hi, hcompletes⟩ := htold.of_artifactPending hpending
    have hne : image ≠ "" := (Build.image?_eq_some_iff.mp hi).2
    refine ⟨hrequest, rfl, ?_, image, hi, hne, hcompletes, ?_⟩
    · intro e' hm hp
      exact hnone ⟨e', hm, hp⟩
    · intro e' hm image' hc'
      have hother := ((htold.completed image').mpr ⟨e', hm, hc'⟩).2
      rw [hi] at hother
      exact (Option.some.inj hother).symm
  · intro x hx given artifact hc
    have hw : x.call.isStatusWrite = false := by rw [hc, Call.isStatusWrite]
    exact Operator.published_of_deploy hs hx hw hc
  · intro f hf
    rw [hf] at hs
    have hsame := (Reconciler.ends_serve_error hs).1
    refine ⟨hsame, fun hrequest => ?_⟩
    rw [hrequest] at hs
    rw [hsame]
    have hm := Reconciler.ends_publishArtifact_iff.mp hs
    split at hm
    · assumption
    · simp at hm

end

/-- Surroundings whose publisher fails once; its later answers are the same name each time. -/
def lateArtifact : Surroundings Nat Call Call.Answer where
  cancelled := fun _ => false
  now := fun _ => .epoch
  answer := fun
    | .publish _, 0 => (.settled (.error (.collaborator "publisher" "busy")), 1)
    | .publish _, n + 1 => (.settled (.ok "checkout-1"), n + 2)
    | .deploy .., n => (.settled (.ok ()), n)
    | .cluster (.patchStatus ..), n => (.settled (.ok ()), n)
    | .cluster _, n => (.interrupted, n)

namespace Episode

def rehearsed (b : Build) (request : Request) (publications : Nat) : Episode :=
  let outcome := ((Operator.reconciler {}).serve b request).run lateArtifact publications
  ⟨b, request, outcome.exchanges, outcome.result.1, outcome.result.2⟩

theorem ends_rehearsed (b : Build) (request : Request) (publications : Nat) :
    ((Operator.reconciler {}).serve b request).Ends (rehearsed b request publications).exchanges
      ((rehearsed b request publications).after, (rehearsed b request publications).result) :=
  Pass.ends_run lateArtifact _ publications

def completed : Episode := rehearsed Build.checkout (.event (.succeeded Build.imageOutput)) 0

def unpublished : Episode := rehearsed completed.after .publication 0

def published : Episode := rehearsed unpublished.after .publication 1

def republished : Episode := rehearsed published.after .publication 2

theorem published_once_of_republished : Build.checkout.status = none ∧
    Life (Operator.reconciler {}) Build.checkout
      ([completed, unpublished] ++ published :: [republished]) republished.after ∧
    unpublished.result = .error (.collaborator "publisher" "busy") ∧
    published.exchanges.map (fun x => x.call) = [.publish completed.after,
      .deploy (completed.after.recordArtifact .epoch).1 "checkout-1",
      .cluster (.patchStatus "shop" "checkout-build-3" published.after.currentStatus)] ∧
    completed.after.image? = some "registry/app:1" ∧
    ∀ x ∈ republished.exchanges, x.call.isStatusWrite = true := by
  have hlog : Life (Operator.reconciler {}) Build.checkout
      ([] ++ [completed] ++ [unpublished] ++ [published] ++ [republished]) republished.after :=
    .serve (.serve (.serve (.serve .start (ends_rehearsed _ _ _)) (ends_rehearsed _ _ _))
      (ends_rehearsed _ _ _)) (ends_rehearsed _ _ _)
  have hlife : Life (Operator.reconciler {}) Build.checkout
      ([completed, unpublished] ++ published :: [republished]) republished.after := hlog
  have hpublishes : published.Publishes published.before.generation := ⟨rfl, rfl, rfl⟩
  refine ⟨rfl, hlife, rfl, by decide, by decide, ?_⟩
  exact ((published_once_of_life rfl hlife).2.2.1 hpublishes republished
    (by simp) (by decide)).2

end Episode
end BuildOperator
