import BuildOperator.Proofs.Ending
import BuildOperator.Proofs.Mark
import BuildOperator.Reconciler
/-!
# What the calls of a reconciler come to

Each call of a reconciler on a build either leaves the build as it was or makes the marks that it
is for, whatever the collaborators answer and whenever the token is cancelled.
-/
namespace BuildOperator.Reconciler
variable {Q : Type} {A : Q → Type} {r : Reconciler Q A} {b b' : Build}
  {xs : List (Exchange Q A)} {result : Except Failure Transition}

private theorem ends_recorded_iff {α : Type} {a : Attempt Q A α} (kept : α → Build)
    {next : Except Failure α → Pass Q A (Build × Except Failure Transition)}
    {out : Build × Except Failure Transition}
    (hok : ∀ v, next (.ok v) = .done (kept v, .ok .recorded))
    (herror : ∀ f, next (.error f) = .done (b, .error f)) :
    (a.run.bind next).Ends xs out ↔
      (∃ v, a.Ends xs (.ok v) ∧ out = (kept v, .ok .recorded)) ∨
        ∃ f, a.Ends xs (.error f) ∧ out = (b, .error f) := by
  rw [Pass.ends_bind_iff]
  constructor
  · rintro ⟨ys, f | v, zs, h, hd, rfl⟩
    · rw [herror] at hd
      obtain ⟨rfl, rfl⟩ := Pass.ends_done_iff.mp hd
      rw [List.append_nil]
      exact Or.inr ⟨f, h, rfl⟩
    · rw [hok] at hd
      obtain ⟨rfl, rfl⟩ := Pass.ends_done_iff.mp hd
      rw [List.append_nil]
      exact Or.inl ⟨v, h, rfl⟩
  · rintro (⟨v, h, rfl⟩ | ⟨f, h, rfl⟩)
    · exact ⟨xs, .ok v, [], h, hok v ▸ .done _, by simp⟩
    · exact ⟨xs, .error f, [], h, herror f ▸ .done _, by simp⟩

/-- An event that is skipped makes no call. One that is recorded counts once the status is
written, and the build is as before if that fails. -/
theorem ends_recordEvent_iff {e : PipelineEvent} {out : Build × Except Failure Transition} :
    (r.recordEvent b e).Ends xs out ↔ ∃ now later,
      match b.recordEvent e now later with
      | (next, .skipped reason) => xs = [] ∧ out = (next, .ok (.skipped reason))
      | (next, .recorded) =>
        (∃ u, (r.persistStatus next).Ends xs (.ok u) ∧ out = (next, .ok .recorded)) ∨
          ∃ f, (r.persistStatus next).Ends xs (.error f) ∧ out = (b, .error f) := by
  unfold recordEvent
  simp only [Pass.now, Pass.bind_eq, Pass.bind, Pass.ends_clock_iff, Pass.pure_eq_done]
  refine exists_congr fun now => exists_congr fun later => ?_
  cases b.recordEvent e now later with
  | mk next t =>
    cases t with
    | recorded => exact ends_recorded_iff (fun _ => next) (fun _ => rfl) fun _ => rfl
    | skipped reason => exact Pass.ends_done_iff

/-- Without a pending artifact there is nothing to publish. Otherwise the published build counts if
the whole of its publication succeeds, and the build is as before if that fails. -/
theorem ends_publishArtifact_iff {out : Build × Except Failure Transition} :
    (r.publishArtifact b).Ends xs out ↔
      if b.artifactPending then
        (∃ next, (r.publishAndDeploy b).Ends xs (.ok next) ∧ out = (next, .ok .recorded)) ∨
          ∃ f, (r.publishAndDeploy b).Ends xs (.error f) ∧ out = (b, .error f)
      else xs = [] ∧ out = (b, .ok (.skipped .notCompleted)) := by
  unfold publishArtifact
  split
  · exact ends_recorded_iff (fun next => next) (fun _ => rfl) fun _ => rfl
  · exact Pass.ends_done_iff

theorem ends_deployArtifact_iff {artifact : String} {out : Except Failure Build} :
    (r.deployArtifact b artifact).Ends xs out ↔
      ∃ applied, ((r.deploy b artifact).race "apply deployment").Ends xs applied ∧
        ((∃ operation, applied = .error (.cancelled operation) ∧
            out = .error (.cancelled operation)) ∨
          (∀ operation, applied ≠ .error (.cancelled operation)) ∧
            ∃ now, out = .ok (b.recordDeployment applied.isOk now).1) := by
  have hmark (applied : Except Failure Unit) (zs : List (Exchange Q A)) :
      (Attempt.now >>= fun now =>
        (pure (b.recordDeployment applied.isOk now).1 : Attempt Q A Build)).Ends zs out ↔
        zs = [] ∧ ∃ now, out = .ok (b.recordDeployment applied.isOk now).1 := by
    rw [Attempt.ends_bind_iff]
    simp only [Attempt.ends_now_iff, Attempt.ends_pure_iff]
    constructor
    · rintro (⟨_, ⟨_, _, he⟩, _⟩ | ⟨_, now, _, ⟨rfl, _⟩, ⟨rfl, ho⟩, rfl⟩)
      · cases he
      · exact ⟨rfl, now, ho⟩
    · rintro ⟨rfl, now, ho⟩
      exact Or.inr ⟨[], now, [], ⟨rfl, now, rfl⟩, ⟨rfl, ho⟩, rfl⟩
  unfold deployArtifact
  rw [Attempt.ends_bind_iff]
  constructor
  · rintro (⟨_, h, _⟩ | ⟨_, applied, zs, h, hm, rfl⟩)
    · obtain ⟨_, _, he⟩ := Attempt.ends_result_iff.mp h
      cases he
    · obtain ⟨_, hr, he⟩ := Attempt.ends_result_iff.mp h
      obtain rfl := Except.ok.inj he
      refine ⟨applied, ?_⟩
      split at hm
      · obtain ⟨rfl, ho⟩ := Attempt.ends_throw_iff.mp hm
        rw [List.append_nil]
        exact ⟨hr, Or.inl ⟨_, rfl, ho⟩⟩
      · next hne =>
        obtain ⟨rfl, ho⟩ := (hmark applied zs).mp hm
        rw [List.append_nil]
        exact ⟨hr, Or.inr ⟨hne, ho⟩⟩
  · rintro ⟨applied, hr, hm⟩
    refine Or.inr ⟨xs, applied, [], Attempt.ends_result_iff.mpr ⟨applied, hr, rfl⟩, ?_, by simp⟩
    obtain ⟨operation, rfl, rfl⟩ | ⟨hne, ho⟩ := hm
    · exact Attempt.ends_throw_iff.mpr ⟨rfl, rfl⟩
    · split
      · next operation => exact absurd rfl (hne operation)
      · exact (hmark applied []).mpr ⟨rfl, ho⟩

theorem ends_deployArtifact_ok {artifact : String}
    (h : (r.deployArtifact b artifact).Ends xs (.ok b')) :
    ∃ succeeded now, b' = (b.recordDeployment succeeded now).1 := by
  obtain ⟨applied, _, ⟨_, _, he⟩ | ⟨_, now, ho⟩⟩ := ends_deployArtifact_iff.mp h
  · cases he
  · exact ⟨applied.isOk, now, Except.ok.inj ho⟩

/-- The part of a publication that comes before its status is written. -/
def draft (r : Reconciler Q A) (b : Build) : Attempt Q A Build := do
  let artifact ← (r.publish b).race "create deployable artifact"
  let now ← Attempt.now
  let b := (b.recordArtifact now).1
  if b.spec.autoDeploy then r.deployArtifact b artifact else return b

theorem publishAndDeploy_eq (r : Reconciler Q A) (b : Build) : r.publishAndDeploy b =
    r.draft b >>= fun next => r.persistStatus next >>= fun _ => pure next := by
  unfold publishAndDeploy draft
  simp only [bind_assoc]
  refine bind_congr fun artifact => bind_congr fun now => ?_
  split
  · rfl
  · simp

/-- A draft makes the mark of the artifact and, exactly where the build asks for it, the mark of its
deployment. -/
theorem ends_draft_ok (h : (r.draft b).Ends xs (.ok b')) :
    ∃ now, b.spec.autoDeploy = false ∧ b' = (b.recordArtifact now).1 ∨
      b.spec.autoDeploy = true ∧
        ∃ succeeded later, b' = ((b.recordArtifact now).1.recordDeployment succeeded later).1 := by
  obtain ⟨_, artifact, _, _, h, _⟩ := Attempt.ends_bind_ok_iff.mp h
  obtain ⟨_, now, _, _, h, _⟩ := Attempt.ends_bind_ok_iff.mp h
  have hspec : (b.recordArtifact now).1.spec = b.spec := b.spec_mark .artifact now now
  refine ⟨now, ?_⟩
  dsimp only at h
  rw [hspec] at h
  split at h
  · next ha => exact Or.inr ⟨ha, ends_deployArtifact_ok h⟩
  · next ha =>
    obtain ⟨_, hr⟩ := Attempt.ends_pure_iff.mp h
    exact Or.inl ⟨Bool.eq_false_iff.mpr ha, Except.ok.inj hr⟩

theorem ends_publishAndDeploy_ok (h : (r.publishAndDeploy b).Ends xs (.ok b')) :
    ∃ now, b' = (b.recordArtifact now).1 ∨
      ∃ succeeded later, b' = ((b.recordArtifact now).1.recordDeployment succeeded later).1 := by
  rw [publishAndDeploy_eq] at h
  obtain ⟨_, next, _, hd, h, _⟩ := Attempt.ends_bind_ok_iff.mp h
  obtain ⟨_, _, _, _, hp, _⟩ := Attempt.ends_bind_ok_iff.mp h
  obtain ⟨_, hr⟩ := Attempt.ends_pure_iff.mp hp
  obtain rfl : b' = next := Except.ok.inj hr
  obtain ⟨now, hn⟩ := ends_draft_ok hd
  exact ⟨now, hn.imp And.right And.right⟩

/-- A pass fails if its publication does; the build that comes of it is not kept. -/
theorem reconcile_eq (r : Reconciler Q A) (b : Build) :
    r.reconcile b = r.reconcileResources b >>= fun _ =>
      if b.artifactPending then
        r.publishAndDeploy b >>= fun _ => pure (.requeue resyncSeconds)
      else pure (.requeue resyncSeconds) := by
  unfold reconcile
  refine bind_congr fun _ => ?_
  split
  · next hp =>
    apply ExceptT.ext
    have hlift : (ExceptT.lift (r.publishArtifact b) : Attempt Q A _).run =
        (r.publishAndDeploy b).run >>= fun result =>
          pure (.ok (result.toOption.getD b, result.map fun _ => .recorded)) := by
      rw [ExceptT.run_lift, publishArtifact, if_pos hp, map_eq_pure_bind, bind_assoc]
      refine bind_congr fun result => ?_
      cases result with
      | ok next => rfl
      | error f => rfl
    rw [ExceptT.run_bind, hlift, ExceptT.run_bind, bind_assoc]
    refine bind_congr fun result => ?_
    cases result with
    | ok next => rfl
    | error f => rfl
  · rfl

end BuildOperator.Reconciler
