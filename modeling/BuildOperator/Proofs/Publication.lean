import BuildOperator.Proofs.Course
import BuildOperator.Proofs.Session
/-!
# What a publication comes to

The publication of a pending artifact calls the publisher, then what applies deployments if the
build asks for that, and then writes the status. Whatever these answer and whenever the token is
cancelled, the first of them that fails decides; only a deployment that fails without being
cancelled is no failure of the publication. The build after it follows from the replies and the
clock.

A cancellation counts where the token is found cancelled before a call, and where it interrupts one.
A call that has its answer has ended before it.
-/
namespace BuildOperator

/-- The failure of a result, if it is a cancellation. -/
def cancellation? {β : Type} : Except Failure β → Option Failure
  | .error (.cancelled operation) => some (.cancelled operation)
  | .error _ | .ok _ => none

theorem cancellation?_eq_none_iff {β : Type} {result : Except Failure β} :
    cancellation? result = none ↔ ∀ operation, result ≠ .error (.cancelled operation) := by
  rcases result with f | v
  · cases f <;> simp [cancellation?]
  · simp [cancellation?]

theorem cancellation?_eq_some_iff {β : Type} {result : Except Failure β} {f : Failure} :
    cancellation? result = some f ↔
      ∃ operation, result = .error (.cancelled operation) ∧ f = .cancelled operation := by
  rcases result with g | v
  · cases g <;> simp [cancellation?, eq_comm]
  · simp [cancellation?]

theorem cancellation?_raced_eq_none_iff {β : Type} {operation : String}
    {reply? : Option (Reply β)} : cancellation? (raced operation reply?) = none ↔
      ∃ result, reply? = some (.settled result) ∧
        ∀ other, result ≠ .error (.cancelled other) := by
  rw [cancellation?_eq_none_iff]
  rcases reply? with _ | result | _ <;> simp [raced, Reply.resultOf]

/-- The course of a deployment, where the build asks for one. -/
def Course.deploy (b : Build) (artifact : String) (reply? : Option (Reply Unit))
    (now : Timestamp) : Course Call Call.Answer Build :=
  if b.spec.autoDeploy then {
    exchanges := exchanged (.deploy b artifact) reply?
    failures := (cancellation? (raced "apply deployment" reply?)).toList
    value := (b.recordDeployment (raced "apply deployment" reply?).isOk now).1 }
  else { value := b }

/-- The course of a write of the status. -/
def Course.write (b : Build) (reply? : Option (Reply Unit)) : Course Call Call.Answer Build where
  exchanges :=
    match b.metadata.space with
    | none => []
    | some space =>
      exchanged (.cluster (.patchStatus space b.displayName b.currentStatus)) reply?
  failures :=
    (if b.metadata.space = none then [.missingNamespace "Build" b.displayName] else []) ++
      (failure? (raced ("patch status of build " ++ b.displayName) reply?)).toList
  value := b

/-- What a publication meets with: the replies to its calls, none where the token is cancelled by
the time that the call is due, and the times on the clock. -/
structure Trial where
  publisher : Option (Reply String)
  deployer : Option (Reply Unit)
  patch : Option (Reply Unit)
  now : Timestamp
  later : Timestamp

namespace Trial
variable (t : Trial) (b : Build)

def published : Except Failure String := raced "create deployable artifact" t.publisher

def deployed : Except Failure Unit := raced "apply deployment" t.deployer

def patched : Except Failure Unit := raced ("patch status of build " ++ b.displayName) t.patch

/-- The build once its artifact is made. -/
def drafted : Build := (b.recordArtifact t.now).1

/-- The build once its deployment has come to an end, too, if it asks for one. -/
def build : Build :=
  if b.spec.autoDeploy then ((t.drafted b).recordDeployment t.deployed.isOk t.later).1
  else t.drafted b

theorem metadata_drafted : (t.drafted b).metadata = b.metadata :=
  b.metadata_mark .artifact t.now t.now

theorem spec_drafted : (t.drafted b).spec = b.spec := b.spec_mark .artifact t.now t.now

theorem metadata_build : (t.build b).metadata = b.metadata := by
  unfold build
  split
  · exact ((t.drafted b).metadata_mark (.deployment _) t.later t.later).trans (t.metadata_drafted b)
  · exact t.metadata_drafted b

theorem value_deploy (artifact : String) :
    (Course.deploy (t.drafted b) artifact t.deployer t.later).value = t.build b := by
  unfold Course.deploy build
  rw [spec_drafted]
  split <;> rfl

/-- Whether the deployment succeeded, if there was one. -/
def outcome? : Option Bool := if b.spec.autoDeploy then some t.deployed.isOk else none

/-- The course of the publication of a build. -/
def course : Course Call Call.Answer Build :=
  (Course.race "create deployable artifact" (.publish b) t.publisher).andThen <|
    (Course.deploy (t.drafted b) (t.published.toOption.getD default) t.deployer t.later).andThen <|
      Course.write (t.build b) t.patch

end Trial

namespace Reconciler
variable {Q : Type} {A : Q → Type}

/-- The part of a publication that comes after its artifact. -/
def conclude (r : Reconciler Q A) (b : Build) (artifact : String) : Attempt Q A Build :=
  (if b.spec.autoDeploy then r.deployArtifact b artifact else pure b) >>= fun next =>
    r.persistStatus next >>= fun _ => pure next

theorem publishAndDeploy_conclude (r : Reconciler Q A) (b : Build) : r.publishAndDeploy b =
    (r.publish b).race "create deployable artifact" >>= fun artifact =>
      Attempt.now >>= fun now => r.conclude (b.recordArtifact now).1 artifact := by
  refine bind_congr fun artifact => bind_congr fun now => ?_
  unfold conclude
  dsimp only
  split
  · rfl
  · rfl

end Reconciler

namespace Operator
variable (kinds : List ObjectKind) (settings : Settings) {b : Build}

theorem goes_write (hs : b.status = some b.currentStatus) :
    ((reconcilerOf kinds settings).persistStatus b >>= fun _ => pure b).Goes (Course.write b) := by
  refine Attempt.Goes.bind_pure (c := fun reply? => { Course.write b reply? with value := () }) ?_ b
  unfold Reconciler.persistStatus Course.write
  rw [hs]
  cases b.metadata.space with
  | none =>
    intro xs r
    simp [Attempt.ends_throw_iff, Course.result]
  | some space =>
    simp only [reduceCtorEq, if_false, List.nil_append]
    exact Attempt.goes_race_ask ("patch status of build " ++ b.displayName)
      (Call.cluster (.patchStatus space b.displayName b.currentStatus))

theorem goes_deploy (b : Build) (artifact : String) :
    (if b.spec.autoDeploy then (reconcilerOf kinds settings).deployArtifact b artifact
      else pure b).Goes
      fun p : Option (Reply Unit) × Timestamp => Course.deploy b artifact p.1 p.2 := by
  unfold Course.deploy
  split
  · intro xs r
    rw [Reconciler.ends_deployArtifact_iff]
    constructor
    · rintro ⟨_, hr, hm⟩
      obtain ⟨reply?, rfl, rfl⟩ := Task.ends_race_ask_iff_raced.mp hr
      rcases hm with ⟨operation, he, rfl⟩ | ⟨hne, now, rfl⟩
      · have hc := cancellation?_eq_some_iff.mpr ⟨operation, he, rfl⟩
        exact ⟨(reply?, .epoch), rfl, by simp [Course.result, hc]⟩
      · have hc := cancellation?_eq_none_iff.mpr hne
        exact ⟨(reply?, now), rfl, by simp [Course.result, hc]⟩
    · rintro ⟨⟨reply?, now⟩, rfl, rfl⟩
      refine ⟨_, Task.ends_race_ask_iff_raced.mpr ⟨reply?, rfl, rfl⟩, ?_⟩
      cases hc : cancellation? (raced "apply deployment" reply?) with
      | none =>
        exact Or.inr ⟨cancellation?_eq_none_iff.mp hc, now, by simp [Course.result, hc]⟩
      | some f =>
        obtain ⟨operation, he, rfl⟩ := cancellation?_eq_some_iff.mp hc
        exact Or.inl ⟨operation, he, by simp [Course.result, hc]⟩
  · exact Attempt.goes_pure b

theorem goes_conclude (hs : b.status = some b.currentStatus) (artifact : String) :
    ((reconcilerOf kinds settings).conclude b artifact).Goes
      fun p : (Option (Reply Unit) × Timestamp) × Option (Reply Unit) =>
        (Course.deploy b artifact p.1.1 p.1.2).andThen
          (Course.write (Course.deploy b artifact p.1.1 p.1.2).value p.2) := by
  unfold Reconciler.conclude
  refine Attempt.Goes.bind (f := fun next =>
    (reconcilerOf kinds settings).persistStatus next >>= fun _ => pure next)
    (goes_deploy kinds settings b artifact) fun p => goes_write kinds settings ?_
  unfold Course.deploy
  split
  · exact Build.status_mark hs (.deployment _) p.2 p.2
  · exact hs

/-- A publication goes in the courses of its trials. -/
theorem goes_publishAndDeploy (h : b.artifactPending = true) :
    ((reconcilerOf kinds settings).publishAndDeploy b).Goes fun t : Trial => t.course b := by
  have hs (now : Timestamp) : (b.recordArtifact now).1.status =
      some (b.recordArtifact now).1.currentStatus :=
    Build.status_mark (Build.status_of_artifactPending h) .artifact now now
  have hall := Attempt.Goes.bind
    (f := fun artifact => Attempt.now >>= fun now =>
      (reconcilerOf kinds settings).conclude (b.recordArtifact now).1 artifact)
    (Attempt.goes_race_ask "create deployable artifact" (Call.publish b))
    fun _ => .now_bind fun now => goes_conclude kinds settings (hs now) _
  have hnames : Function.Surjective fun t : Trial =>
      (t.publisher, t.now, (t.deployer, t.later), t.patch) :=
    fun p => ⟨⟨p.1, p.2.2.1.1, p.2.2.2, p.2.1, p.2.2.1.2⟩, rfl⟩
  have hcourse (t : Trial) : t.course b =
      (Course.race "create deployable artifact" (Call.publish b) t.publisher).andThen
        ((Course.deploy (t.drafted b) (t.published.toOption.getD default) t.deployer
          t.later).andThen
          (Course.write (Course.deploy (t.drafted b) (t.published.toOption.getD default) t.deployer
            t.later).value t.patch)) := by
    rw [Trial.value_deploy]
    rfl
  intro xs r
  rw [Reconciler.publishAndDeploy_conclude]
  simp only [hcourse]
  exact hall.rename hnames xs r

end Operator

/-- The conditions without the first one of each of these types. -/
def Conditions.without (types : List ConditionType) (cs : Conditions) : Conditions :=
  types.foldl (fun cs t => cs.eraseP fun c => c.type = t.name) cs

/-- The types that a publication records. -/
def publishedTypes (outcome? : Option Bool) : List ConditionType :=
  .deployableArtifactCreated :: (outcome?.map fun _ => .deploymentApplied).toList

/-- The other build has its artifact recorded, and the outcome of its deployment if there was one.
Everything else is the same. -/
structure Build.PublishedAs (b : Build) (outcome? : Option Bool) (b' : Build) : Prop where
  metadata : b'.metadata = b.metadata
  spec : b'.spec = b.spec
  image : b'.currentStatus.imageStatus = b.currentStatus.imageStatus
  artifact : b'.Shows .deployableArtifactCreated .holds .artifactCreated
  deployed : outcome? = some true → b'.Shows .deploymentApplied .holds .deployed
  notDeployed : outcome? = some false → b'.Shows .deploymentApplied .fails .notDeployed
  others : Conditions.without (publishedTypes outcome?) b'.conditions =
    Conditions.without (publishedTypes outcome?) b.conditions

namespace Build
variable {b b' : Build}

theorem eraseP_conditions_record (b : Build) (t : ConditionType) (st : ConditionStatus)
    (remark : Remark) (now : Timestamp) :
    (b.record t st remark now).conditions.eraseP (fun c => c.type = t.name) =
      b.conditions.eraseP fun c => c.type = t.name := by
  rw [conditions_record]
  exact Conditions.eraseP_record _ (b.finding t st remark) now

theorem publishedAs_artifact (b : Build) (now : Timestamp) :
    b.PublishedAs none (b.record .deployableArtifactCreated .holds .artifactCreated now) where
  metadata := rfl
  spec := rfl
  image := rfl
  artifact := shows_record ..
  deployed := by simp
  notDeployed := by simp
  others := eraseP_conditions_record ..

theorem PublishedAs.others_record (h : b.PublishedAs none b') (succeeded : Bool)
    (st : ConditionStatus) (remark : Remark) (later : Timestamp) :
    Conditions.without (publishedTypes (some succeeded))
        (b'.record .deploymentApplied st remark later).conditions =
      Conditions.without (publishedTypes (some succeeded)) b.conditions := by
  have hcomm (cs : Conditions) :
      Conditions.without [.deployableArtifactCreated, .deploymentApplied] cs =
        Conditions.without [.deploymentApplied, .deployableArtifactCreated] cs := by
    refine List.eraseP_comm fun c _ => ?_
    by_cases hc : c.type = ConditionType.deployableArtifactCreated.name
    · right
      simp [hc, ConditionType.name]
    · left
      simp [hc]
  have hothers : b'.conditions.eraseP
      (fun c => c.type = ConditionType.deployableArtifactCreated.name) =
      b.conditions.eraseP fun c => c.type = ConditionType.deployableArtifactCreated.name := h.others
  calc Conditions.without [.deployableArtifactCreated, .deploymentApplied]
        (b'.record .deploymentApplied st remark later).conditions
      = Conditions.without [.deploymentApplied, .deployableArtifactCreated]
          (b'.record .deploymentApplied st remark later).conditions := hcomm _
    _ = Conditions.without [.deploymentApplied, .deployableArtifactCreated] b'.conditions := by
        simp only [Conditions.without, List.foldl_cons, List.foldl_nil, eraseP_conditions_record]
    _ = Conditions.without [.deployableArtifactCreated, .deploymentApplied] b'.conditions :=
        (hcomm _).symm
    _ = Conditions.without [.deployableArtifactCreated, .deploymentApplied] b.conditions := by
        simp only [Conditions.without, List.foldl_cons, List.foldl_nil, hothers]

theorem PublishedAs.deployment (h : b.PublishedAs none b') (succeeded : Bool) (later : Timestamp) :
    b.PublishedAs (some succeeded) (b'.recordDeployment succeeded later).1 := by
  have hne : ConditionType.deployableArtifactCreated ≠ .deploymentApplied := by decide
  rw [recordDeployment_of_artifact later h.artifact.standing?_eq]
  cases succeeded with
  | true =>
    exact ⟨h.metadata, h.spec, h.image, h.artifact.record_of_ne hne _ _ _,
      fun _ => shows_record .., by simp, h.others_record true ..⟩
  | false =>
    exact ⟨h.metadata, h.spec, h.image, h.artifact.record_of_ne hne _ _ _,
      by simp, fun _ => shows_record .., h.others_record false ..⟩

end Build

theorem Trial.publishedAs_build {b : Build} (h : b.artifactPending = true) (t : Trial) :
    b.PublishedAs (t.outcome? b) (t.build b) := by
  have hdrafted : b.PublishedAs none (t.drafted b) := by
    unfold drafted
    rw [Build.recordArtifact_of_completed t.now (Build.artifactPending_iff.mp h).1]
    exact b.publishedAs_artifact t.now
  unfold outcome? build
  split
  · exact hdrafted.deployment _ _
  · exact hdrafted

theorem Trial.failures_course (t : Trial) (b : Build) : (t.course b).failures =
    (failure? t.published).toList ++
      (if b.spec.autoDeploy then (cancellation? t.deployed).toList else []) ++
      (if b.metadata.space = none then [.missingNamespace "Build" b.displayName] else []) ++
      (failure? (t.patched b)).toList := by
  have hdeploy (artifact : String) :
      (Course.deploy (t.drafted b) artifact t.deployer t.later).failures =
        if b.spec.autoDeploy then (cancellation? t.deployed).toList else [] := by
    unfold Course.deploy
    rw [spec_drafted]
    split <;> rfl
  have hwrite : (Course.write (t.build b) t.patch).failures =
      (if b.metadata.space = none then [.missingNamespace "Build" b.displayName] else []) ++
        (failure? (t.patched b)).toList := by
    unfold Course.write patched
    rw [Build.displayName_congr (t.metadata_build b), metadata_build]
  simp only [course, Course.andThen, hdeploy, hwrite, List.append_assoc]
  rfl

/-- Nothing fails exactly if every call is made and answered, and the build has a namespace. -/
theorem Trial.failures_course_eq_nil_iff (t : Trial) (b : Build) : (t.course b).failures = [] ↔
    (∃ artifact, t.publisher = some (.settled (.ok artifact))) ∧
    (b.spec.autoDeploy = true → ∃ result, t.deployer = some (.settled result) ∧
      ∀ operation, result ≠ .error (.cancelled operation)) ∧
    b.metadata.space ≠ none ∧ t.patch = some (.settled (.ok ())) := by
  have hpatch : (∃ v, t.patched b = .ok v) ↔ t.patch = some (.settled (.ok ())) := by
    simp only [patched, raced_eq_ok_iff]
    exact ⟨fun ⟨_, h⟩ => h, fun h => ⟨(), h⟩⟩
  rw [failures_course]
  simp only [List.append_eq_nil_iff, Option.toList_eq_nil_iff, failure?_eq_none_iff, hpatch,
    published, raced_eq_ok_iff, and_assoc]
  refine and_congr Iff.rfl (and_congr ?_ (and_congr ?_ Iff.rfl))
  · by_cases ha : b.spec.autoDeploy
    · simp [ha, deployed, cancellation?_raced_eq_none_iff]
    · simp [ha]
  · by_cases hn : b.metadata.space = none <;> simp [hn]

namespace Operator
variable {kinds : List ObjectKind} {settings : Settings} {b : Build}

theorem ends_publishArtifact_iff_trial (h : b.artifactPending = true)
    {xs : List (Exchange Call Call.Answer)} {out : Build × Except Failure Transition} :
    ((reconcilerOf kinds settings).publishArtifact b).Ends xs out ↔
      ∃ t : Trial, xs = (t.course b).exchanges ∧
        out = match (t.course b).failures with
          | [] => (t.build b, .ok .recorded)
          | f :: _ => (b, .error f) := by
  have hgoes := goes_publishAndDeploy kinds settings h
  rw [Reconciler.ends_publishArtifact_iff, if_pos h]
  constructor
  · rintro (⟨next, hp, rfl⟩ | ⟨f, hp, rfl⟩)
    · obtain ⟨t, hx, hr⟩ := (hgoes _ _).mp hp
      obtain ⟨hnil, rfl⟩ := Course.result_eq_ok_iff.mp hr.symm
      exact ⟨t, hx, by rw [hnil]; rfl⟩
    · obtain ⟨t, hx, hr⟩ := (hgoes _ _).mp hp
      obtain ⟨rest, he⟩ := List.head?_eq_some_iff.mp (Course.result_eq_error_iff.mp hr.symm)
      exact ⟨t, hx, by rw [he]⟩
  · rintro ⟨t, hx, ho⟩
    cases hfs : (t.course b).failures with
    | nil =>
      rw [hfs] at ho
      have hok : (t.course b).result = .ok (t.build b) := Course.result_eq_ok_iff.mpr ⟨hfs, rfl⟩
      exact Or.inl ⟨t.build b, (hgoes _ _).mpr ⟨t, hx, hok.symm⟩, ho⟩
    | cons f rest =>
      rw [hfs] at ho
      have herror : (t.course b).result = .error f :=
        Course.result_eq_error_iff.mpr (by rw [hfs]; rfl)
      exact Or.inr ⟨f, (hgoes _ _).mpr ⟨t, hx, herror.symm⟩, ho⟩

end Operator

/-- The build of the checkout with its image, before its artifact is made. -/
def Build.built : Build := (Build.checkout.recordEvent (.succeeded Build.imageOutput) .epoch).1

def failedDeployment : Trial where
  publisher := some (.settled (.ok "checkout-1"))
  deployer := some (.settled (.error (.api .unreadable)))
  patch := some (.settled (.ok ()))
  now := .epoch
  later := .epoch

def cancelledDeployment : Trial := { failedDeployment with deployer := none }

end BuildOperator
