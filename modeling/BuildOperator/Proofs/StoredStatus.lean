import BuildOperator.Api.Request
import BuildOperator.Proofs.MergePatch
import BuildOperator.Proofs.StatusJson
/-!
# Stored statuses

A status in JSON leaves out conditions and an image that are empty, and so does the merge patch that
writes a status. A patch therefore overlays the stored status: what the new status has replaces what
was stored, and where it has nothing the stored value stays.
-/
namespace BuildOperator

namespace ImageStatus
variable {i stored : ImageStatus} {ms : List (String × Json)}

/-- What is written of an image: an empty one is left out. -/
def written? (i : ImageStatus) : Option Json :=
  if i.image = "" then none else some (.string i.image)

theorem toJson_eq (i : ImageStatus) : ∃ is, i.toJson = .object is ∧
    (is.map Prod.fst).Nodup ∧ is.lookup "image" = i.written? := by
  refine ⟨_, rfl, ?_⟩
  unfold written?
  by_cases h : i.image = "" <;> simp [h, Json.field?]

theorem ofJson_of_lookup (h : ms.lookup "image" = i.written?) : ofJson (.object ms) = .ok i := by
  unfold written? at h
  change ofMembers ms = .ok i
  unfold ofMembers
  by_cases he : i.image = ""
  · rw [Decode.present_of_absent _ (h.trans (if_pos he))]
    exact congrArg (Except.ok ∘ ImageStatus.mk) he.symm
  · rw [Decode.present_of_lookup _ (h.trans (if_neg he))]
    rfl

theorem patchedMember_written? (stored i : ImageStatus) :
    Json.patchedMember stored.written? i.written? =
      written? (if i.image = "" then stored else i) := by
  unfold written?
  by_cases h : i.image = "" <;> simp [h, Json.patchedMember, Json.mergePatch]

end ImageStatus

namespace BuildStatus
variable {s stored : BuildStatus} {ms : List (String × Json)}

/-- What is written of the conditions: an empty list is left out. -/
def writtenConditions? (s : BuildStatus) : Option Json :=
  if s.conditions = [] then none else some s.conditions.toJson

/-- These members hold a status, in any order and possibly among others. -/
structure WrittenIn (s : BuildStatus) (ms : List (String × Json)) : Prop where
  conditions : ms.lookup "conditions" = s.writtenConditions?
  imageStatus : ∃ is, (ms.lookup "imageStatus").getD (.object []) = .object is ∧
    is.lookup "image" = s.imageStatus.written?

theorem writtenIn_nil : ({} : BuildStatus).WrittenIn [] :=
  ⟨rfl, [], rfl, rfl⟩

theorem toJson_eq (s : BuildStatus) : ∃ ss, s.toJson = .object ss ∧
    (ss.map Prod.fst).Nodup ∧ ss.lookup "conditions" = s.writtenConditions? ∧
    ss.lookup "imageStatus" = some s.imageStatus.toJson := by
  refine ⟨_, rfl, ?_⟩
  unfold writtenConditions?
  by_cases h : s.conditions = [] <;> simp [h, Json.field?, Json.field, List.lookup_cons]

theorem writtenIn_toJson (s : BuildStatus) : s.WrittenIn s.toJson.members := by
  obtain ⟨ss, he, _, hc, hi⟩ := s.toJson_eq
  obtain ⟨is, hs, _, hm⟩ := s.imageStatus.toJson_eq
  rw [he]
  exact ⟨hc, is, by simp [hi, hs], hm⟩

theorem WrittenIn.ofJson_eq (h : s.WrittenIn ms) : ofJson (.object ms) = .ok s := by
  have hc : ∃ cs, Decode.present ms "conditions" Conditions.ofJson = .ok cs ∧
      cs.getD [] = s.conditions := by
    have hm := h.conditions
    unfold writtenConditions? at hm
    by_cases he : s.conditions = []
    · exact ⟨none, Decode.present_of_absent _ (hm.trans (if_pos he)), he.symm⟩
    · rw [Decode.present_of_lookup _ (hm.trans (if_neg he)), Conditions.ofJson_toJson]
      exact ⟨some s.conditions, rfl, rfl⟩
  have hi : ∃ i, Decode.present ms "imageStatus" ImageStatus.ofJson = .ok i ∧
      i.getD {} = s.imageStatus := by
    obtain ⟨is, hm, hw⟩ := h.imageStatus
    have hr := ImageStatus.ofJson_of_lookup hw
    cases hl : ms.lookup "imageStatus" with
    | none =>
      rw [hl] at hm
      obtain rfl : [] = is := Json.object.inj hm
      exact ⟨none, Decode.present_of_absent _ hl, Except.ok.inj hr⟩
    | some x =>
      rw [hl] at hm
      obtain rfl : x = .object is := hm
      rw [Decode.present_of_lookup _ hl, hr]
      exact ⟨some s.imageStatus, rfl, rfl⟩
  obtain ⟨cs, hc, hcs⟩ := hc
  obtain ⟨i, hi, his⟩ := hi
  change ofMembers ms = .ok s
  simp only [ofMembers, hc, hi, bind, Except.bind, hcs, his]
  rfl

/-- What a patch with a status makes of a stored one: what is empty is left out of the patch. -/
def overlaid (stored s : BuildStatus) : BuildStatus where
  conditions := if s.conditions = [] then stored.conditions else s.conditions
  imageStatus := if s.imageStatus.image = "" then stored.imageStatus else s.imageStatus

theorem WrittenIn.mergePatch (h : stored.WrittenIn ms) (s : BuildStatus) :
    (stored.overlaid s).WrittenIn (Json.mergePatch (.object ms) s.toJson).members := by
  obtain ⟨ss, he, hn, hc, hi⟩ := s.toJson_eq
  obtain ⟨ps, hs, hsn, hp⟩ := s.imageStatus.toJson_eq
  obtain ⟨is, hm, hw⟩ := h.imageStatus
  rw [he, Json.mergePatch_object]
  simp only [Json.members_object]
  refine ⟨?_, Json.mergeMembers is ps, ?_, ?_⟩
  · rw [Json.lookup_mergeMembers hn, hc, h.conditions]
    unfold writtenConditions? overlaid
    by_cases hs : s.conditions = []
    · simp [hs, Json.patchedMember]
    · simp [hs, Json.patchedMember, Conditions.toJson, Json.mergePatch]
  · -- Whether a missing image status counts as null or as an empty object makes no difference.
    have hmembers : ((ms.lookup "imageStatus").getD .null).members = is := by
      cases hl : ms.lookup "imageStatus" with
      | none =>
        rw [hl] at hm
        exact Json.object.inj hm
      | some x =>
        rw [hl] at hm
        exact congrArg Json.members hm
    rw [Json.lookup_mergeMembers hn, hi, hs]
    simp [Json.patchedMember, Json.mergePatch_object, hmembers]
  · rw [Json.lookup_mergeMembers hsn, hp, hw]
    exact ImageStatus.patchedMember_written? stored.imageStatus s.imageStatus

def patch (s : BuildStatus) : Json := .object [("status", s.toJson)]

end BuildStatus

theorem Api.body_of_patchStatus {fieldManager space name : String} {s : BuildStatus}
    {request : Request} (h : requestOf fieldManager (.patchStatus space name s) = .ok request) :
    request.body = some s.patch := by
  simp only [requestOf, bind, Except.bind] at h
  split at h
  · cases h
  split at h
  · cases h
  split at h
  · cases h
  · obtain rfl := Except.ok.inj h
    rfl

/-- A document holds this status, or none. -/
def StatusIn (doc : List (String × Json)) : Option BuildStatus → Prop
  | none => doc.lookup "status" = none
  | some s => ∃ ss, doc.lookup "status" = some (.object ss) ∧ s.WrittenIn ss

section
variable {doc : List (String × Json)} {status : Option BuildStatus} {s : BuildStatus}

theorem statusIn_congr {doc' : List (String × Json)}
    (h : doc'.lookup "status" = doc.lookup "status") :
    StatusIn doc' status ↔ StatusIn doc status := by
  unfold StatusIn
  rw [h]

theorem statusIn_of_lookup (h : doc.lookup "status" = status.map BuildStatus.toJson) :
    StatusIn doc status := by
  cases status with
  | none => exact h
  | some s =>
    obtain ⟨ss, he, _⟩ := s.toJson_eq
    have hw := s.writtenIn_toJson
    rw [he] at hw
    exact ⟨ss, h.trans (congrArg some he), hw⟩

def patchedBy (doc : List (String × Json)) (s : BuildStatus) : List (String × Json) :=
  (Json.mergePatch (.object doc) s.patch).members

theorem mergePatch_patch (doc : List (String × Json)) (s : BuildStatus) :
    Json.mergePatch (.object doc) s.patch = .object (patchedBy doc s) := by
  unfold patchedBy BuildStatus.patch
  rw [Json.mergePatch_object]
  rfl

theorem lookup_patchedBy (doc : List (String × Json)) (s : BuildStatus) (name : String) :
    (patchedBy doc s).lookup name = if name = "status" then
      some (Json.mergePatch ((doc.lookup "status").getD .null) s.toJson) else doc.lookup name := by
  obtain ⟨ss, he, _⟩ := s.toJson_eq
  have hd : ([("status", s.toJson)].map Prod.fst).Nodup := by simp
  unfold patchedBy BuildStatus.patch
  rw [Json.mergePatch_object, Json.members_object, Json.lookup_mergeMembers hd]
  by_cases h : name = "status"
  · simp [h, Json.patchedMember, he]
  · have hb : (name == "status") = false := by simpa using h
    simp [h, hb, List.lookup_cons, Json.patchedMember]

/-- A patch overlays the stored status, an empty one where there is none. -/
theorem StatusIn.patchedBy (h : StatusIn doc status) (s : BuildStatus) :
    StatusIn (patchedBy doc s) (some ((status.getD {}).overlaid s)) := by
  have hw : ∃ ss, ((doc.lookup "status").getD .null).members = ss ∧
      (status.getD {}).WrittenIn ss := by
    cases status with
    | none =>
      have hn : doc.lookup "status" = none := h
      exact ⟨[], by simp [hn, Json.members], BuildStatus.writtenIn_nil⟩
    | some stored =>
      obtain ⟨ss, hl, hs⟩ := h
      exact ⟨ss, by simp [hl], hs⟩
  obtain ⟨ss, hm, hs⟩ := hw
  obtain ⟨ps, hp, _⟩ := s.toJson_eq
  have hmerged := hs.mergePatch s
  rw [hp, Json.mergePatch_object] at hmerged
  refine ⟨_, ?_, hmerged⟩
  rw [lookup_patchedBy, if_pos rfl, hp, Json.mergePatch_object, hm]
  rfl

end

namespace Build
variable {μ : Type} [MetadataFormat μ] {doc doc' : List (String × Json)} {d : Build μ}
  {s : BuildStatus}

/-- A build is read from three members, two of which have to be there. -/
theorem ofJson_eq_ok_iff : ofJson (.object doc) = .ok d ↔
    Decode.present doc "metadata" MetadataFormat.ofJson = .ok (some d.metadata) ∧
    Decode.present doc "spec" BuildSpec.ofJson = .ok (some d.spec) ∧
    Decode.nullable doc "status" BuildStatus.ofJson = .ok d.status := by
  change ofMembers doc = .ok d ↔ _
  unfold ofMembers
  cases Decode.present doc "metadata" (MetadataFormat.ofJson : Decoder μ) with
  | error e => simp [bind, Except.bind]
  | ok metadata =>
    cases Decode.present doc "spec" BuildSpec.ofJson with
    | error e => simp [bind, Except.bind]
    | ok spec =>
      cases Decode.nullable doc "status" BuildStatus.ofJson with
      | error e => simp [bind, Except.bind]
      | ok status =>
        obtain ⟨dm, ds, dt⟩ := d
        cases metadata <;> cases spec <;>
          simp [bind, Except.bind, Decode.required, pure, Except.pure]

/-- The rest of a stored build is read as before when only its status was written. -/
theorem ofJson_of_lookup (h : ofJson (.object doc) = .ok d)
    (hm : doc'.lookup "metadata" = doc.lookup "metadata")
    (hs : doc'.lookup "spec" = doc.lookup "spec") (hw : StatusIn doc' (some s)) :
    ofJson (.object doc') = .ok { d with status := some s } := by
  obtain ⟨hmeta, hspec, _⟩ := ofJson_eq_ok_iff.mp h
  refine ofJson_eq_ok_iff.mpr ⟨?_, ?_, ?_⟩
  · rwa [Decode.present, hm]
  · rwa [Decode.present, hs]
  · obtain ⟨ss, hl, hr⟩ := hw
    rw [Decode.nullable, Decode.present_of_lookup _ hl]
    simp only [Decode.optional, hr.ofJson_eq]
    rfl

theorem status_of_statusIn {status : Option BuildStatus} (h : ofJson (.object doc) = .ok d)
    (hw : StatusIn doc status) : d.status = status := by
  obtain ⟨_, _, hs⟩ := ofJson_eq_ok_iff.mp h
  cases status with
  | none =>
    rw [Decode.nullable, Decode.present_of_absent _ hw] at hs
    exact (Except.ok.inj hs).symm
  | some s =>
    obtain ⟨ss, hl, hr⟩ := hw
    rw [Decode.nullable, Decode.present_of_lookup _ hl] at hs
    simp only [Decode.optional, hr.ofJson_eq] at hs
    exact (Except.ok.inj hs).symm

theorem ofJson_patchedBy {status : Option BuildStatus} (h : ofJson (.object doc) = .ok d)
    (hw : StatusIn doc status) (s : BuildStatus) : ofJson (.object (patchedBy doc s)) =
      .ok { d with status := some ((status.getD {}).overlaid s) } :=
  ofJson_of_lookup h (lookup_patchedBy doc s "metadata") (lookup_patchedBy doc s "spec")
    (hw.patchedBy s)

end Build
end BuildOperator
