import BuildOperator.Proofs.StatusWrites
import BuildOperator.Proofs.StoredStatus
import BuildOperator.Proofs.TerminalCompletion
import Mathlib.Logic.Relation
/-!
# A recorded status replaces the stored one

The patch with a status that was just recorded leaves nothing of the stored status, although a merge
patch keeps what the new status leaves out: a record leaves a condition, and no image is cleared.
This holds whatever was recorded in between and never written.
-/
namespace BuildOperator
variable {b b₁ b' : Build}

namespace Conditions

theorem record_ne_nil (cs : Conditions) (f : Finding) (now : Timestamp) :
    (record cs f now).1 ≠ [] := by
  cases cs with
  | nil => simp [record]
  | cons c cs =>
    rw [record_cons]
    split <;> simp

end Conditions

namespace BuildStatus

theorem overlaid_eq {stored s : BuildStatus} (hc : s.conditions ≠ [])
    (hi : s.imageStatus.image = "" → s.imageStatus = stored.imageStatus) :
    stored.overlaid s = s := by
  unfold overlaid
  rw [if_neg hc]
  split
  · next he => rw [← hi he]
  · rfl

end BuildStatus

namespace Build

/-- The image of a build goes on, or another one that is not empty takes its place. -/
def CarriesImage (b b' : Build) : Prop :=
  b'.currentStatus.imageStatus.image = "" →
    b'.currentStatus.imageStatus = b.currentStatus.imageStatus

theorem CarriesImage.trans (h : b.CarriesImage b₁) (h' : b₁.CarriesImage b') :
    b.CarriesImage b' := by
  intro he
  have hi := h' he
  rw [hi] at he ⊢
  exact h he

theorem carriesImage_mark (b : Build) (m : Mark) (now later : Timestamp) :
    b.CarriesImage (b.mark m now later).1 := by
  have hm := effect_mark b m now later
  generalize b.mark m now later = out at hm ⊢
  cases hm with
  | image hf hi => exact fun he => absurd he (PipelineOutput.image?_ne_empty hi)
  | finished | notCompleted | noArtifact => exact fun _ => rfl
  | accepted | stepSucceeded | stepFailed | imageMissing | artifact | deployed | notDeployed =>
    exact fun _ => rfl

theorem conditions_of_recorded {m : Mark} {now later : Timestamp}
    (h : (b.mark m now later).2 = .recorded) : ∃ s, (b.mark m now later).1.status = some s ∧
      s = (b.mark m now later).1.currentStatus ∧ s.conditions ≠ [] := by
  have hm := effect_mark b m now later
  generalize b.mark m now later = out at h hm ⊢
  cases hm with
  | finished | notCompleted | noArtifact => cases h
  | accepted | stepSucceeded | stepFailed | image | imageMissing | artifact | deployed |
      notDeployed =>
    exact ⟨_, rfl, rfl, Conditions.record_ne_nil _ _ _⟩

/-- A build is marked, or it gets another generation. -/
inductive Changes : Build → Build → Prop where
  | mark (b : Build) (m : Mark) (now later : Timestamp) : Changes b (b.mark m now later).1
  | generation (b : Build) (value : Option Int64) : Changes b (b.withGeneration value)

theorem Changes.carriesImage (h : Changes b b') : b.CarriesImage b' := by
  cases h with
  | mark m now later => exact b.carriesImage_mark m now later
  | generation value => exact fun _ => rfl

theorem carriesImage_of_changes (h : Relation.ReflTransGen Changes b b') : b.CarriesImage b' := by
  induction h with
  | refl => exact fun _ => rfl
  | tail _ hs ih => exact ih.trans hs.carriesImage

/-- However a build was changed before, the patch that writes a status just recorded makes the
stored build one with exactly that status, if the changes began with the stored one. -/
theorem replaced_of_recorded {m : Mark} {now later : Timestamp} {doc : List (String × Json)}
    (h : Relation.ReflTransGen Changes b b₁) (hr : (b₁.mark m now later).2 = .recorded)
    (hd : doc.lookup "status" = b.status.map BuildStatus.toJson) :
    ∃ s, (b₁.mark m now later).1.status = some s ∧
      (∀ fieldManager space name request,
        Api.requestOf fieldManager (.patchStatus space name s) = .ok request →
          request.body = some s.patch) ∧
      BuildStatus.ofJson ((Json.mergePatch (.object doc) s.patch).member "status") = .ok s ∧
      ∀ d, Build.ofJson (.object doc) = .ok d →
        Build.ofJson (Json.mergePatch (.object doc) s.patch) = .ok { d with status := some s } := by
  obtain ⟨s, hs, he, hc⟩ := conditions_of_recorded hr
  have hi := (carriesImage_of_changes h).trans (b₁.carriesImage_mark m now later)
  unfold CarriesImage at hi
  rw [← he] at hi
  have hs' : b.currentStatus.overlaid s = s := BuildStatus.overlaid_eq hc hi
  have hw : StatusIn doc b.status := statusIn_of_lookup hd
  refine ⟨s, hs, fun _ _ _ _ => Api.body_of_patchStatus, ?_, ?_⟩
  · obtain ⟨ss, hl, hss⟩ := hw.patchedBy s
    rw [← currentStatus, hs'] at hss
    rw [mergePatch_patch, Json.member_eq, Json.members_object, hl]
    exact hss.ofJson_eq
  · intro d hdoc
    rw [mergePatch_patch, ofJson_patchedBy hdoc hw, ← currentStatus, hs']

/-- A failed build of which nothing was written when its second generation is accepted. -/
def revived : Build := halted.withGeneration (some 2)

theorem replaced_of_revived : Relation.ReflTransGen Changes halted revived ∧
    (revived.mark (.event .accepted) .epoch .epoch).2 = .recorded ∧
    halted.toJson.members.lookup "status" = halted.status.map BuildStatus.toJson ∧
    ∃ s, (revived.mark (.event .accepted) .epoch .epoch).1.status = some s ∧
      s.imageStatus.image = "registry/app:0" ∧
      Build.ofJson (Json.mergePatch halted.toJson s.patch) =
        .ok { halted with status := some s } := by
  have hc : Relation.ReflTransGen Changes halted revived := .single (.generation halted (some 2))
  have hl : halted.toJson.members.lookup "status" = halted.status.map BuildStatus.toJson := by
    decide
  have hd : Build.ofJson (.object halted.toJson.members) = .ok halted := by rfl
  have hm : (revived.mark (.event .accepted) .epoch .epoch).2 = .recorded := rfl
  obtain ⟨s, hs, _, _, hr⟩ := replaced_of_recorded hc hm hl
  refine ⟨hc, hm, hl, s, hs, ?_, hr halted hd⟩
  obtain rfl := Option.some.inj hs
  rfl

end Build
end BuildOperator
