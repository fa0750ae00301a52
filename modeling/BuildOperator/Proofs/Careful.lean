import BuildOperator.Cluster.Rehearsal
import BuildOperator.Proofs.Ending
import BuildOperator.Proofs.NormalForm
import BuildOperator.Proofs.StoreChange
/-!
# Careful passes

A pass over a cluster that others write to as well is careful if it updates only the object that it
read by its last call, and with the version of that reading; if it ends at once when a write is
refused for a conflict; and if it never finds an object of the wrong kind under a key. The passes of
the operator over the objects of the workflows are careful.
-/
namespace BuildOperator
variable {α β : Type}

/-- Refused writes of the object with that key end the pass. -/
def GivesUp (key : ObjectKey) (resume : Reply Unit → Pass Call Call.Answer (Except Failure α)) :
    Prop :=
  ∀ message, resume (.settled (.error (.conflict key message))) =
    .done (.error (.conflict key message))

theorem GivesUp.bind {key : ObjectKey}
    {resume : Reply Unit → Pass Call Call.Answer (Except Failure α)}
    {next : Except Failure α → Pass Call Call.Answer (Except Failure β)} (h : GivesUp key resume)
    (hn : ∀ f, next (.error f) = .done (.error f)) :
    GivesUp key fun reply => (resume reply).bind next := by
  intro message
  simp only [h message, Pass.bind, hn]

/-- A pass that read `seen` by its last call is careful from here on, and meets `post` if it
succeeds. It may count on what a cluster answers: objects lie under their own keys, and a write is
refused only for a conflict. -/
def Careful (post : α → Option ManagedObject → Prop) :
    Pass Call Call.Answer (Except Failure α) → Option ManagedObject → Prop
  | .done (.ok v), seen => post v seen
  | .done (.error f), _ => ∀ handler expected found, f ≠ .kindMismatch handler expected found
  | .clock resume, seen => ∀ now, Careful post (resume now) seen
  | .token resume, seen => ∀ cancelled, Careful post (resume cancelled) seen
  | .call (.cluster (.get key)) resume, _ =>
    ∀ found : Option ManagedObject, (∀ o, found = some o → o.key = key) →
      Careful post (resume (.settled (.ok found))) found
  | .call (.cluster (.create object)) resume, _ =>
    GivesUp object.key resume ∧ Careful post (resume (.settled (.ok ()))) none
  | .call (.cluster (.update object)) resume, seen =>
    (∃ current, seen = some current ∧ current.key = object.key ∧
      current.resourceVersion = object.resourceVersion) ∧
    GivesUp object.key resume ∧ Careful post (resume (.settled (.ok ()))) none
  | .call (.cluster (.delete _)) resume, _ => Careful post (resume (.settled (.ok ()))) none
  | .call (.cluster (.patchStatus ..)) _, _ => False
  | .call (.publish _) _, _ => False
  | .call (.deploy ..) _, _ => False

namespace Careful
variable {post : α → Option ManagedObject → Prop} {post' : β → Option ManagedObject → Prop}
  {seen : Option ManagedObject}

/-- A sequence is careful if its second part is so after everything that the first may come to. -/
theorem bind {a : Attempt Call Call.Answer α} {f : α → Attempt Call Call.Answer β}
    (ha : Careful post a.run seen) (hf : ∀ v seen, post v seen → Careful post' (f v).run seen) :
    Careful post' (a >>= f).run seen := by
  rw [ExceptT.run_bind, Pass.bind_eq]
  generalize a.run = p at ha
  induction p generalizing seen with
  | done r =>
    cases r with
    | ok v => exact hf v seen ha
    | error e => exact ha
  | clock resume ih => exact fun now => ih now (ha now)
  | token resume ih => exact fun cancelled => ih cancelled (ha cancelled)
  | call q resume ih =>
    rcases q with (key | object | object | key | _) | _ | _
    · exact fun found hk => ih _ (ha found hk)
    · exact ⟨ha.1.bind fun _ => rfl, ih _ ha.2⟩
    · exact ⟨ha.1, ha.2.1.bind fun _ => rfl, ih _ ha.2.2⟩
    · exact ih _ ha
    all_goals exact ha

theorem pure {v : α} (h : post v seen) :
    Careful post (Pure.pure v : Attempt Call Call.Answer α).run seen := h

/-- What a task comes to that is not cancelled before it starts. -/
def afterStart (operation : String) (t : Task Call Call.Answer α) :
    Pass Call Call.Answer (Except Failure α) :=
  t.perform.bind fun reply => .done (reply.resultOf operation)

theorem race {operation : String} {t : Task Call Call.Answer α}
    (h : Careful post (afterStart operation t) seen) :
    Careful post (t.race operation).run seen := by
  intro cancelled
  cases cancelled with
  | true => exact fun _ _ _ he => nomatch he
  | false =>
    have hstart {next : Reply α → Pass Call Call.Answer (Except Failure α)}
        (hn : ∀ reply, .done (reply.resultOf operation) = next reply) :
        Careful post (t.perform.bind next) seen := funext hn ▸ h
    refine hstart fun reply => ?_
    cases reply <;> rfl

end Careful

namespace Operator
variable {operation : String} {seen : Option ManagedObject} {c : WorkflowContext}
  {kind : ObjectKind}

theorem careful_get (key : ObjectKey) :
    Careful (fun found seen => found = seen ∧ ∀ o, found = some o → o.key = key)
      ((client.get key).race operation).run seen :=
  Careful.race fun _ hk => ⟨rfl, hk⟩

theorem careful_create (object : ManagedObject) :
    Careful (fun _ _ => True) ((client.create object).race operation).run seen :=
  Careful.race ⟨fun _ => rfl, trivial⟩

theorem careful_delete (key : ObjectKey) :
    Careful (fun _ _ => True) ((client.delete key).race operation).run seen :=
  Careful.race trivial

theorem careful_settle : Careful (fun _ _ => True)
    ((Task.settle (.ok ()) : Task Call Call.Answer Unit).race operation).run seen :=
  Careful.race trivial

/-- The version of what was read goes with the write. -/
theorem careful_converge {name : String} {current desired : ManagedObject}
    (hk : current.key = desired.key) :
    Careful (fun _ _ => True) ((client.converge name current desired).race operation).run
      (some current) := by
  obtain ⟨drifted, hd⟩ := ManagedObject.drifted?_of_kind (congrArg ObjectKey.kind hk)
  cases drifted with
  | false =>
    simp only [Client.converge, hd]
    exact careful_settle
  | true =>
    simp only [Client.converge, hd]
    refine Careful.race ⟨⟨current, rfl, ?_, ?_⟩, fun _ => rfl, trivial⟩
    · rw [hk, ManagedObject.key_withVersion]
    · rw [ManagedObject.resourceVersion_withVersion]

theorem careful_apply :
    Careful (fun _ _ => True) (handler kind c).apply.run seen := by
  unfold Handler.apply
  split
  · refine (careful_get (c.key kind)).bind fun found seen h => ?_
    obtain ⟨rfl, hk⟩ := h
    cases found with
    | none => exact (careful_create (c.desired kind)).bind fun _ _ _ => Careful.pure trivial
    | some current =>
      have hkey : current.key = (c.desired kind).key := by rw [hk current rfl, c.key_desired]
      exact (careful_converge hkey).bind fun _ _ _ => Careful.pure trivial
  · have hdelete (operation : String) :
        Careful (fun _ _ => True) ((handler kind c).delete.race operation).run seen := by
      cases kind with
      | serviceAccount => exact careful_settle
      | role | roleBinding => exact careful_delete _
    exact (hdelete _).bind fun _ _ _ => Careful.pure trivial

theorem careful_applyAll (kinds : List ObjectKind) (c : WorkflowContext)
    (seen : Option ManagedObject) :
    Careful (fun _ _ => True)
      (Handler.applyAll (kinds.map fun kind => handler kind c)).run seen := by
  induction kinds generalizing seen with
  | nil => exact Careful.pure trivial
  | cons kind rest ih =>
    refine careful_apply.bind fun _ _ _ => ?_
    exact (ih _).bind fun _ _ _ => Careful.pure trivial

end Operator

/-- How an exchange changed the store. -/
def Exchange.change? : Exchange Call Call.Answer → Option Change
  | ⟨.cluster (.create object), .settled (.ok _)⟩ => some (.put object)
  | ⟨.cluster (.update object), .settled (.ok _)⟩ => some (.put object)
  | ⟨.cluster (.delete key), .settled (.ok _)⟩ => some (.erase key)
  | _ => none

/-- A look-up that found this object. -/
def Exchange.reading (found : ManagedObject) : Exchange Call Call.Answer :=
  ⟨.cluster (.get found.key), .settled (.ok (some found))⟩

namespace Rehearsal
variable (s : Rehearsal (id : ObjectKey → ObjectKey)) (o : ManagedObject)

theorem perform_create :
    (s.store.get? o.key = none ∧
      perform (.cluster (.create o)) s = (.ok (), { s with store := s.store.put o })) ∨
    (∃ found message, s.store.get? o.key = some found ∧
      perform (.cluster (.create o)) s = (.error (.conflict o.key message), s)) := by
  simp only [perform, Store.create]
  cases hg : s.store.get? o.key with
  | none => exact Or.inl ⟨rfl, rfl⟩
  | some found => exact Or.inr ⟨found, _, rfl, rfl⟩

theorem perform_update :
    (s.store.versionOf? o.key = o.resourceVersion ∧
      perform (.cluster (.update o)) s = (.ok (), { s with store := s.store.put o })) ∨
    (s.store.versionOf? o.key ≠ o.resourceVersion ∧
      ∃ message, perform (.cluster (.update o)) s = (.error (.conflict o.key message), s)) := by
  simp only [perform, Store.update]
  split
  · exact Or.inl ⟨‹_›, rfl⟩
  · exact Or.inr ⟨‹_›, _, rfl⟩

theorem store_perform (q : Call) :
    (perform q s).2.store =
      s.store.afterAny (Exchange.change? ⟨q, .settled (perform q s).1⟩) := by
  rcases q with (key | object | object | key | _) | _ | _
  · rfl
  · rcases s.perform_create object with ⟨_, h⟩ | ⟨_, _, _, h⟩ <;> rw [h] <;> rfl
  · rcases s.perform_update object with ⟨_, h⟩ | ⟨_, _, h⟩ <;> rw [h] <;> rfl
  all_goals rfl

end Rehearsal

/-- A careful pass stays careful when a cluster answers its call. What it read last is then what it
found by this very call. -/
theorem Careful.answered {post : α → Option ManagedObject → Prop} {seen : Option ManagedObject}
    {s : Rehearsal (id : ObjectKey → ObjectKey)} {q : Call}
    {resume : Reply q.Answer → Pass Call Call.Answer (Except Failure α)}
    (h : Careful post (.call q resume) seen) (hs : s.store.Filed) :
    ∃ seen, Careful post (resume (.settled (Rehearsal.perform q s).1)) seen ∧
      ∀ current, seen = some current → s.store.get? current.key = some current ∧
        (⟨q, .settled (Rehearsal.perform q s).1⟩ : Exchange Call Call.Answer) =
          .reading current := by
  rcases q with (key | object | object | key | _) | _ | _
  · refine ⟨s.store.get? key, h _ (hs key), ?_⟩
    intro current hc
    obtain rfl := hs key current hc
    have hp : Rehearsal.perform (.cluster (.get current.key)) s = (.ok (some current), s) := by
      simp only [Rehearsal.perform, hc]
    exact ⟨hc, by rw [hp]; rfl⟩
  · refine ⟨none, ?_, by simp⟩
    rcases s.perform_create object with ⟨_, hp⟩ | ⟨_, message, _, hp⟩
    · rw [hp]
      exact h.2
    · rw [hp, h.1 message]
      exact fun _ _ _ he => nomatch he
  · refine ⟨none, ?_, by simp⟩
    rcases s.perform_update object with ⟨_, hp⟩ | ⟨_, message, hp⟩
    · rw [hp]
      exact h.2.2
    · rw [hp, h.2.1 message]
      exact fun _ _ _ he => nomatch he
  · exact ⟨none, h, by simp⟩
  all_goals exact h.elim

end BuildOperator
