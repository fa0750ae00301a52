import BuildOperator.Proofs.RoundTrip
/-!
# Refused calls

What a refusal is to mean for a call follows from its code: that an object is not there is no
failure of looking it up or of removing it, that somebody else wrote meanwhile is a conflict for
every write, and all else is a failure that carries the refusal. Creations and updates are taken so.
A lookup goes by the reason in place of the code, and for a deletion or a written status no refusal
is a conflict.
-/
namespace BuildOperator
open Json (Entire fields_nil)

theorem Decode.uint16_ofInt (n : UInt16) : uint16 (.ofInt n.toNat) = .ok n := by
  have hlow : (0 : Int) ≤ n.toNat := Int.natCast_nonneg _
  have hhigh : (n.toNat : Int) ≤ 65535 := by
    have hlt : n.toNat < 65536 := n.toNat_lt
    omega
  have hn : UInt16.ofNat n.toNat = n := UInt16.ofNat_toNat
  simp only [uint16, integer, Json.ofInt, if_pos (And.intro hlow hhigh)]
  exact congrArg Except.ok hn

namespace Refusal

def toJson (a : Refusal) : Json :=
  .record [
    Json.field "code" (.ofInt a.code.toNat),
    Json.field "message" (.string a.message),
    Json.field "reason" (.string a.reason),
    Json.field "status" (.string a.status)]

theorem entire_toJson (a : Refusal) : Entire 1 Api.refusalOutline a.toJson := by
  have hcode : Json.Ordered 0 (.ofInt a.code.toNat) := by
    have hlt : a.code.toNat < 65536 := a.code.toNat_lt
    exact .integer (by omega) (by omega)
  have hfields := (fields_nil 0).field "status" (.string a.status)
    |>.field "reason" (.string a.reason)
    |>.field "message" (.string a.message)
    |>.field "code" hcode
  exact hfields.entire (by decide) (by decide)

theorem ofJson_toJson (a : Refusal) : Api.refusalOfJson a.toJson = .ok a := by
  have hcode : a.toJson.members.lookup "code" = some (.ofInt a.code.toNat) := by simp [toJson]
  have hmessage : a.toJson.members.lookup "message" = some (.string a.message) := by simp [toJson]
  have hreason : a.toJson.members.lookup "reason" = some (.string a.reason) := by simp [toJson]
  have hstatus : a.toJson.members.lookup "status" = some (.string a.status) := by simp [toJson]
  show Api.refusalOfMembers a.toJson.members = .ok a
  simp only [Api.refusalOfMembers, Decode.present_of_lookup _ hcode, Decode.uint16_ofInt,
    Decode.present_of_lookup _ hmessage, Decode.present_of_lookup _ hreason,
    Decode.present_of_lookup _ hstatus]
  rfl

theorem roundTrips : RoundTrips Api.refusalOutline toJson Api.refusalOfJson :=
  roundTrips_of_entire entire_toJson (by decide) ofJson_toJson

end Refusal

theorem Api.refusalOfText?_eq (body : String) :
    refusalOfText? body = (readBody refusalOutline refusalOfJson body).toOption := by
  unfold refusalOfText? readBody
  cases Json.excerptOfText? refusalOutline body with
  | none => rfl
  | some x => cases h : refusalOfJson x.canonical <;> simp [h, Except.mapError, Except.toOption]

theorem Api.body_of_refusal (a : Refusal) {status : UInt16} (hs : 400 ≤ status ∧ status < 600) :
    (Response.received status a.toJson.text).body = .error (.refused a) := by
  rw [Response.body, if_pos hs, refusal, refusalOfText?_eq, Refusal.roundTrips.text]
  rfl

/-- What a refusal can mean for a call. -/
inductive Meaning where
  /-- The object is not there. -/
  | absent
  /-- Somebody else wrote meanwhile. -/
  | conflict
  | failure
  deriving DecidableEq

namespace ClusterCall

/-- What a refusal is to mean, by its code. -/
def meaning : ClusterCall → Refusal → Meaning
  | .get _, a => if a.code = 404 then .absent else .failure
  | .delete _, a =>
    if a.code = 404 then .absent else if a.code = 409 then .conflict else .failure
  | .create _, a | .update _, a | .patchStatus .., a =>
    if a.code = 409 then .conflict else .failure

/-- What a refusal is taken for. -/
def taken : ClusterCall → Refusal → Meaning
  | .get _, a => if a.reason = "NotFound" then .absent else .failure
  | .create _, a | .update _, a => if a.code = 409 then .conflict else .failure
  | .delete _, a => if a.code = 404 then .absent else .failure
  | .patchStatus .., _ => .failure

/-- The refusals that are taken for something else than they are to mean. -/
def Mistakes : ClusterCall → Refusal → Prop
  | .get _, a => ¬ (a.code = 404 ↔ a.reason = "NotFound")
  | .create _, _ | .update _, _ => False
  | .delete _, a | .patchStatus .., a => a.code = 409

theorem taken_eq_meaning_iff {call : ClusterCall} {a : Refusal} :
    call.taken a = call.meaning a ↔ ¬ call.Mistakes a := by
  cases call with
  | get key =>
    simp only [taken, meaning, Mistakes]
    by_cases hc : a.code = 404 <;> by_cases hr : a.reason = "NotFound" <;> simp [hc, hr]
  | create object | update object => simp [taken, meaning, Mistakes]
  | delete key =>
    simp only [taken, meaning, Mistakes]
    by_cases hc : a.code = 404
    · simp [hc]
    · by_cases hr : a.code = 409 <;> simp [hc, hr]
  | patchStatus space name status =>
    simp only [taken, meaning, Mistakes]
    by_cases hc : a.code = 409 <;> simp [hc]

/-- The answer to a call that finds nothing. -/
def nothing : (call : ClusterCall) → call.Answer
  | .get _ => none
  | .create _ | .update _ | .delete _ | .patchStatus .. => ()

/-- Whether a result says that a refusal has this meaning. A failure has the refusal as it is. -/
def Tells (call : ClusterCall) (a : Refusal) (result : Except Failure call.Answer) :
    Meaning → Prop
  | .absent => result = .ok call.nothing
  | .conflict => ∃ key, result = .error (.conflict key a.message)
  | .failure => result = .error (.api (.refused a))

variable {call : ClusterCall} {a : Refusal} {result : Except Failure call.Answer}

theorem Tells.unique {m m' : Meaning} (h : call.Tells a result m) (h' : call.Tells a result m') :
    m = m' := by
  cases m <;> cases m' <;> simp only [Tells] at h h' <;> grind

theorem tells_written {object : ManagedObject} {response : Api.Response}
    (ha : response.body = .error (.refused a)) :
    (create object).Tells a (Api.written object response) ((create object).taken a) := by
  simp only [Api.written, ha, Except.bind, Failure.ofWrite, taken]
  split
  · exact ⟨object.key, rfl⟩
  · rfl

/-- The answer to a refused call says what the refusal is taken for. -/
theorem tells_answerOf {response : Api.Response} (ha : response.body = .error (.refused a)) :
    call.Tells a (Api.answerOf call response) (call.taken a) := by
  cases call with
  | get key =>
    simp only [Api.answerOf, ha, Except.bind, taken]
    split <;> rfl
  | create object => exact tells_written ha
  | update object => exact tells_written ha
  | delete key =>
    simp only [Api.answerOf, ha, Except.bind, taken]
    split <;> rfl
  | patchStatus space name status =>
    simp only [Api.answerOf, ha, Except.bind, taken]
    rfl

theorem policy_of_tells {failure : Failure} (h : result = .error failure) {m : Meaning}
    (ht : call.Tells a result m) :
    failure.policy =
      if m = .conflict then .requeue 10
      else if (ApiFailure.refused a).retryable then .requeue 30
      else .requeue 300 := by
  subst h
  cases m with
  | absent => cases ht
  | conflict =>
    obtain ⟨key, he⟩ := ht
    obtain rfl := Except.error.inj he
    rfl
  | failure =>
    obtain rfl := Except.error.inj ht
    simp [Failure.policy, Failure.isConflict, Failure.isFault, Failure.retryable,
      Failure.isCancellation]

end ClusterCall

theorem Api.perform_of_sent {manager : String} {call : ClusterCall} {response : Response}
    (h : (perform manager call response).1 ≠ []) :
    (perform manager call response).2 = answerOf call response := by
  unfold perform at h ⊢
  split
  · rfl
  · next he =>
    rw [he] at h
    exact absurd rfl h

theorem Api.perform_of_taken {manager : String} {call : ClusterCall} {response : Response}
    {a : Refusal} (hsent : (perform manager call response).1 ≠ [])
    (ha : response.body = .error (.refused a)) (ht : call.taken a = .failure) :
    (perform manager call response).2 = .error (.api (.refused a)) := by
  have htells : call.Tells a (answerOf call response) .failure := by
    rw [← ht]
    exact ClusterCall.tells_answerOf ha
  rw [perform_of_sent hsent]
  exact htells

/-- A call whose request was sent and refused. The result says what the refusal is taken for and
nothing else, which is what it is to mean exactly unless the call mistakes it. A conflict brings the
operator back after 10 seconds, any other failure after 30 if the refusal is retryable and after 300
if it is not. -/
theorem refused_iff_not_mistaken {manager : String} {call : ClusterCall} {response : Api.Response}
    {a : Refusal} (hsent : (Api.perform manager call response).1 ≠ [])
    (ha : response.body = .error (.refused a)) :
    let result := (Api.perform manager call response).2
    (call.Tells a result (call.meaning a) ↔ ¬ call.Mistakes a) ∧
    (∀ m, call.Tells a result m ↔ m = call.taken a) ∧
    (∀ failure, result = .error failure → failure.policy =
      if call.taken a = .conflict then .requeue 10
      else if (ApiFailure.refused a).retryable then .requeue 30
      else .requeue 300) := by
  intro result
  have htells : call.Tells a result (call.taken a) := by
    rw [show result = Api.answerOf call response from Api.perform_of_sent hsent]
    exact ClusterCall.tells_answerOf ha
  have hiff (m : Meaning) : call.Tells a result m ↔ m = call.taken a := by
    constructor
    · intro h
      exact h.unique htells
    · rintro rfl
      exact htells
  refine ⟨?_, hiff, fun failure h => ClusterCall.policy_of_tells h htells⟩
  rw [hiff, ← ClusterCall.taken_eq_meaning_iff, eq_comm]

/-- The cluster refuses a write that comes too late. -/
def staleWrite : Refusal where
  status := "Failure"
  message := "the object has been modified"
  reason := "Conflict"
  code := 409

theorem body_of_staleWrite : (Api.Response.received 409 staleWrite.toJson.text).body =
    .error (.refused staleWrite) := Api.body_of_refusal staleWrite (by decide)

/-- Something before the cluster answers that it knows no such page. -/
def missingPage : Refusal where
  status := "404 Not Found"
  message := "\"404 page not found\""
  reason := "Failed to parse error data"
  code := 404

theorem body_of_missingPage :
    (Api.Response.received 404 "404 page not found").body = .error (.refused missingPage) := by
  decide +kernel

def accountKey : ObjectKey := ⟨.serviceAccount, "keel-ci-shop", "workflow-sa"⟩

def account : ManagedObject :=
  .serviceAccount { metadata := { name := some "workflow-sa", space := some "keel-ci-shop" } }

theorem conflict_of_staleWrite : ∃ key,
    (Api.perform "keel" (.update account) (.received 409 staleWrite.toJson.text)).2 =
      .error (.conflict key "the object has been modified") := by
  have hsent : (Api.perform "keel" (.update account)
      (.received 409 staleWrite.toJson.text)).1 ≠ [] := by
    decide +kernel
  obtain ⟨hfits, _⟩ := refused_iff_not_mistaken hsent body_of_staleWrite
  exact hfits.mpr id

/-- A status or a deletion that comes too late is no conflict, and an object that is not there is a
failure where the answer does not say so in the words of the cluster. -/
theorem mistakes_of_account :
    (Api.perform "keel" (.patchStatus "shop" "checkout-build-3" {})
      (.received 409 staleWrite.toJson.text)).2 = .error (.api (.refused staleWrite)) ∧
    (Api.perform "keel" (.delete accountKey) (.received 409 staleWrite.toJson.text)).2 =
      .error (.api (.refused staleWrite)) ∧
    (Api.perform "keel" (.get accountKey) (.received 404 "404 page not found")).2 =
      .error (.api (.refused missingPage)) ∧
    (Failure.api (.refused staleWrite)).policy = .requeue 30 ∧
    (Failure.api (.refused missingPage)).policy = .requeue 300 := by
  refine ⟨?_, ?_, ?_, by decide, by decide⟩
  · exact Api.perform_of_taken (by decide +kernel) body_of_staleWrite rfl
  · exact Api.perform_of_taken (by decide +kernel) body_of_staleWrite (by decide)
  · exact Api.perform_of_taken (by decide +kernel) body_of_missingPage (by decide)

end BuildOperator
