import BuildOperator.Proofs.Cancellation
import BuildOperator.Proofs.ReconcilerCalls
/-!
# The calls of a pass

A pass tends its handlers in order: it removes what is not needed, and looks up what is needed to
create or update it. The first failure or cancellation is the last thing that happens in the pass,
and only after all handlers were tended is a pending artifact published. Nothing has to be known of
the handlers for this: here each of their methods is a call that may be answered in any way.
-/
namespace BuildOperator

section
variable {Q : Type} {A : Q → Type} {α β : Type}

/-- A call that was raced under this name did not succeed: it was due when the token was cancelled,
or it failed, or it was interrupted. -/
inductive Refused (operation : String) (q : Q) : List (Exchange Q A) → Failure → Prop where
  | due : Refused operation q [] (.cancelled operation)
  | failed (f : Failure) : Refused operation q [⟨q, .settled (.error f)⟩] f
  | interrupted : Refused operation q [⟨q, .interrupted⟩] (.cancelled operation)

theorem Task.ends_race_ask_ok_iff {operation : String} {q : Q} {xs : List (Exchange Q A)}
    {v : A q} : ((Task.ask q id).race operation).Ends xs (.ok v) ↔
      xs = [⟨q, .settled (.ok v)⟩] := by
  rw [ends_race_ask_iff]
  constructor
  · rintro (⟨_, hr⟩ | ⟨reply, rfl, hr⟩)
    · cases hr
    · rw [Reply.resultOf_eq_ok_iff.mp hr.symm]
  · intro h
    exact Or.inr ⟨_, h, rfl⟩

theorem Task.ends_race_ask_error_iff {operation : String} {q : Q} {xs : List (Exchange Q A)}
    {f : Failure} : ((Task.ask q id).race operation).Ends xs (.error f) ↔
      Refused operation q xs f := by
  rw [ends_race_ask_iff]
  constructor
  · rintro (⟨rfl, hr⟩ | ⟨(_ | _) | _, rfl, hr⟩)
    · obtain rfl : f = .cancelled operation := by injection hr
      exact .due
    · obtain rfl : f = _ := by injection hr
      exact .failed f
    · cases hr
    · obtain rfl : f = .cancelled operation := by injection hr
      exact .interrupted
  · intro h
    cases h with
    | due => exact Or.inl ⟨rfl, rfl⟩
    | failed => exact Or.inr ⟨_, rfl, rfl⟩
    | interrupted => exact Or.inr ⟨_, rfl, rfl⟩

namespace Attempt
variable {xs : List (Exchange Q A)}

theorem ends_bind_error_iff {a : Attempt Q A α} {f : α → Attempt Q A β} {e : Failure} :
    (a >>= f).Ends xs (.error e) ↔ a.Ends xs (.error e) ∨
      ∃ ys v zs, a.Ends ys (.ok v) ∧ (f v).Ends zs (.error e) ∧ xs = ys ++ zs := by
  rw [ends_bind_iff]
  refine or_congr ⟨?_, fun h => ⟨e, h, rfl⟩⟩ Iff.rfl
  rintro ⟨e', h, he⟩
  obtain rfl : e = e' := by injection he
  exact h

theorem ends_bind_pure_ok_iff {a : Attempt Q A α} {g : α → β} {v : β} :
    (a >>= fun u => pure (g u)).Ends xs (.ok v) ↔ ∃ u, a.Ends xs (.ok u) ∧ v = g u := by
  rw [ends_bind_pure_iff]
  constructor
  · rintro ⟨e | u, ha, hv⟩
    · cases hv
    · exact ⟨u, ha, Except.ok.inj hv⟩
  · rintro ⟨u, ha, rfl⟩
    exact ⟨.ok u, ha, rfl⟩

theorem ends_bind_pure_error_iff {a : Attempt Q A α} {g : α → β} {f : Failure} :
    (a >>= fun u => pure (g u)).Ends xs (.error f) ↔ a.Ends xs (.error f) := by
  rw [ends_bind_pure_iff]
  constructor
  · rintro ⟨e | u, ha, he⟩
    · rwa [Except.error.inj he]
    · cases he
  · intro ha
    exact ⟨.error f, ha, rfl⟩

end Attempt
end

/-- A call to a method of a handler, or to another collaborator of the operator. -/
inductive Errand (ι : Type) where
  | get (c : WorkflowContext) (i : ι)
  | create (c : WorkflowContext) (i : ι)
  | update (c : WorkflowContext) (i : ι) (current : ManagedObject)
  | delete (c : WorkflowContext) (i : ι)
  | publish (build : Build)
  | deploy (build : Build) (artifact : String)
  | patchStatus (space name : String) (status : BuildStatus)

abbrev Errand.Answer {ι : Type} : Errand ι → Type
  | .get .. => Option ManagedObject
  | .publish _ => String
  | .create .. | .update .. | .delete .. | .deploy .. | .patchStatus .. => Unit

/-- The handler whose method is called, if it is one of a handler. -/
def Errand.handler? {ι : Type} : Errand ι → Option ι
  | .get _ i | .create _ i | .update _ i _ | .delete _ i => some i
  | .publish _ | .deploy .. | .patchStatus .. => none

/-- Handlers of which only their names are known, and for which builds they are required. -/
structure Roster (ι : Type) where
  name : ι → String
  required : ι → WorkflowContext → Bool

namespace Roster
variable {ι : Type}

def handler (r : Roster ι) (c : WorkflowContext) (i : ι) : Handler (Errand ι) Errand.Answer where
  name := r.name i
  required := r.required i c
  current := .ask (.get c i) id
  create := .ask (.create c i) id
  update := fun current => .ask (.update c i current) id
  delete := .ask (.delete c i) id

/-- The operator with these handlers, in order. -/
def reconciler (r : Roster ι) (is : List ι) (settings : Settings) :
    Reconciler (Errand ι) Errand.Answer where
  settings := settings
  handlers := fun c => is.map (r.handler c)
  publish := fun build => .ask (.publish build) id
  deploy := fun build artifact => .ask (.deploy build artifact) id
  patchStatus := fun space name status => .ask (.patchStatus space name status) id

/-- The name that a call is raced under. -/
def operation (r : Roster ι) : Errand ι → String
  | .get _ i => "get " ++ r.name i
  | .create _ i => "create " ++ r.name i
  | .update _ i _ => "update " ++ r.name i
  | .delete _ i => "delete " ++ r.name i
  | .publish _ => "create deployable artifact"
  | .deploy .. => "apply deployment"
  | .patchStatus _ name _ => "patch status of build " ++ name

section
variable (r : Roster ι) (c : WorkflowContext)

/-- The calls for a handler that does not fail, and what was done. -/
inductive Tended (i : ι) : List (Exchange (Errand ι) Errand.Answer) → Applied → Prop where
  | removed (h : r.required i c = false) : Tended i [⟨.delete c i, .settled (.ok ())⟩] .removed
  | created (h : r.required i c = true) :
      Tended i [⟨.get c i, .settled (.ok none)⟩, ⟨.create c i, .settled (.ok ())⟩] .created
  | converged (h : r.required i c = true) (current : ManagedObject) :
      Tended i [⟨.get c i, .settled (.ok (some current))⟩,
        ⟨.update c i current, .settled (.ok ())⟩] .converged

/-- The calls for a handler that fails, and the failure. -/
inductive Failed (i : ι) : List (Exchange (Errand ι) Errand.Answer) → Failure → Prop where
  | delete {xs : List (Exchange (Errand ι) Errand.Answer)} {f : Failure}
      (h : r.required i c = false) (hx : Refused ("delete " ++ r.name i) (.delete c i) xs f) :
      Failed i xs f
  | get {xs : List (Exchange (Errand ι) Errand.Answer)} {f : Failure}
      (h : r.required i c = true) (hx : Refused ("get " ++ r.name i) (.get c i) xs f) :
      Failed i xs f
  | create {xs : List (Exchange (Errand ι) Errand.Answer)} {f : Failure}
      (h : r.required i c = true) (hx : Refused ("create " ++ r.name i) (.create c i) xs f) :
      Failed i (⟨.get c i, .settled (.ok none)⟩ :: xs) f
  | update {xs : List (Exchange (Errand ι) Errand.Answer)} {f : Failure}
      (h : r.required i c = true) (current : ManagedObject)
      (hx : Refused ("update " ++ r.name i) (.update c i current) xs f) :
      Failed i (⟨.get c i, .settled (.ok (some current))⟩ :: xs) f

/-- The calls for handlers none of which fails, and what was done about each. -/
inductive TendedAll : List ι → List (Exchange (Errand ι) Errand.Answer) → List Applied → Prop where
  | nil : TendedAll [] [] []
  | cons {i : ι} {rest : List ι} {xs ys : List (Exchange (Errand ι) Errand.Answer)}
      {applied : Applied} {later : List Applied} (h : r.Tended c i xs applied)
      (hr : TendedAll rest ys later) : TendedAll (i :: rest) (xs ++ ys) (applied :: later)

/-- The calls for handlers up to the first that fails, and the failure. -/
def Stopped (is : List ι) (xs : List (Exchange (Errand ι) Errand.Answer)) (f : Failure) : Prop :=
  ∃ done i rest ys zs outcomes, is = done ++ i :: rest ∧ r.TendedAll c done ys outcomes ∧
    r.Failed c i zs f ∧ xs = ys ++ zs

end

variable {r : Roster ι} {c : WorkflowContext} {i : ι} {is : List ι}
  {xs : List (Exchange (Errand ι) Errand.Answer)} {f : Failure}

theorem ends_apply_ok_iff {applied : Applied} :
    (r.handler c i).apply.Ends xs (.ok applied) ↔ r.Tended c i xs applied := by
  unfold Handler.apply
  constructor
  · intro he
    cases h : r.required i c with
    | false =>
      rw [if_neg (by simp [handler, h])] at he
      obtain ⟨_, hd, rfl⟩ := Attempt.ends_bind_pure_ok_iff.mp he
      obtain rfl := Task.ends_race_ask_ok_iff.mp hd
      exact .removed h
    | true =>
      rw [if_pos (by simp [handler, h])] at he
      obtain ⟨_, found, _, hg, ha, rfl⟩ := Attempt.ends_bind_ok_iff.mp he
      obtain rfl := Task.ends_race_ask_ok_iff.mp hg
      cases found with
      | none =>
        obtain ⟨_, hc, rfl⟩ := Attempt.ends_bind_pure_ok_iff.mp ha
        obtain rfl := Task.ends_race_ask_ok_iff.mp hc
        exact .created h
      | some current =>
        obtain ⟨_, hu, rfl⟩ := Attempt.ends_bind_pure_ok_iff.mp ha
        obtain rfl := Task.ends_race_ask_ok_iff.mp hu
        exact .converged h current
  · intro ht
    cases ht with
    | removed h =>
      rw [if_neg (by simp [handler, h])]
      exact Attempt.ends_bind_pure_ok_iff.mpr ⟨(), Task.ends_race_ask_ok_iff.mpr rfl, rfl⟩
    | created h =>
      rw [if_pos (by simp [handler, h])]
      refine Attempt.ends_bind_ok_iff.mpr ⟨_, none, _, Task.ends_race_ask_ok_iff.mpr rfl, ?_, rfl⟩
      exact Attempt.ends_bind_pure_ok_iff.mpr ⟨(), Task.ends_race_ask_ok_iff.mpr rfl, rfl⟩
    | converged h current =>
      rw [if_pos (by simp [handler, h])]
      refine Attempt.ends_bind_ok_iff.mpr
        ⟨_, some current, _, Task.ends_race_ask_ok_iff.mpr rfl, ?_, rfl⟩
      exact Attempt.ends_bind_pure_ok_iff.mpr ⟨(), Task.ends_race_ask_ok_iff.mpr rfl, rfl⟩

theorem ends_apply_error_iff :
    (r.handler c i).apply.Ends xs (.error f) ↔ r.Failed c i xs f := by
  unfold Handler.apply
  constructor
  · intro he
    cases h : r.required i c with
    | false =>
      rw [if_neg (by simp [handler, h])] at he
      have hd := Attempt.ends_bind_pure_error_iff.mp he
      exact .delete h (Task.ends_race_ask_error_iff.mp hd)
    | true =>
      rw [if_pos (by simp [handler, h])] at he
      obtain hg | ⟨_, found, zs, hg, ha, rfl⟩ := Attempt.ends_bind_error_iff.mp he
      · exact .get h (Task.ends_race_ask_error_iff.mp hg)
      obtain rfl := Task.ends_race_ask_ok_iff.mp hg
      cases found with
      | none =>
        have hc := Attempt.ends_bind_pure_error_iff.mp ha
        exact .create h (Task.ends_race_ask_error_iff.mp hc)
      | some current =>
        have hu := Attempt.ends_bind_pure_error_iff.mp ha
        exact .update h current (Task.ends_race_ask_error_iff.mp hu)
  · intro hf
    cases hf with
    | delete h hx =>
      rw [if_neg (by simp [handler, h])]
      exact Attempt.ends_bind_pure_error_iff.mpr (Task.ends_race_ask_error_iff.mpr hx)
    | get h hx =>
      rw [if_pos (by simp [handler, h])]
      exact Attempt.ends_bind_error_iff.mpr (Or.inl (Task.ends_race_ask_error_iff.mpr hx))
    | create h hx =>
      rw [if_pos (by simp [handler, h])]
      refine Attempt.ends_bind_error_iff.mpr
        (Or.inr ⟨_, none, _, Task.ends_race_ask_ok_iff.mpr rfl, ?_, rfl⟩)
      exact Attempt.ends_bind_pure_error_iff.mpr (Task.ends_race_ask_error_iff.mpr hx)
    | update h current hx =>
      rw [if_pos (by simp [handler, h])]
      refine Attempt.ends_bind_error_iff.mpr
        (Or.inr ⟨_, some current, _, Task.ends_race_ask_ok_iff.mpr rfl, ?_, rfl⟩)
      exact Attempt.ends_bind_pure_error_iff.mpr (Task.ends_race_ask_error_iff.mpr hx)

theorem ends_applyAll_ok_iff {outcomes : List Applied} :
    (Handler.applyAll (is.map (r.handler c))).Ends xs (.ok outcomes) ↔
      r.TendedAll c is xs outcomes := by
  induction is generalizing xs outcomes with
  | nil =>
    rw [List.map_nil, Handler.applyAll, Attempt.ends_pure_iff]
    constructor
    · rintro ⟨rfl, ho⟩
      obtain rfl : outcomes = [] := by injection ho
      exact .nil
    · rintro ⟨⟩
      exact ⟨rfl, rfl⟩
  | cons i rest ih =>
    rw [List.map_cons, Handler.applyAll, Attempt.ends_bind_ok_iff]
    constructor
    · rintro ⟨ys, applied, zs, ha, hr, rfl⟩
      obtain ⟨later, hl, rfl⟩ := Attempt.ends_bind_pure_ok_iff.mp hr
      exact .cons (ends_apply_ok_iff.mp ha) (ih.mp hl)
    · intro ht
      cases ht with
      | @cons _ _ ys zs applied later h hr =>
        refine ⟨ys, applied, zs, ends_apply_ok_iff.mpr h, ?_, rfl⟩
        exact Attempt.ends_bind_pure_ok_iff.mpr ⟨later, ih.mpr hr, rfl⟩

theorem not_stopped_nil : ¬ r.Stopped c [] xs f := by
  rintro ⟨done, i, rest, _, _, _, h, _⟩
  simp at h

theorem stopped_cons_iff : r.Stopped c (i :: is) xs f ↔ r.Failed c i xs f ∨
    ∃ ys applied zs, r.Tended c i ys applied ∧ r.Stopped c is zs f ∧ xs = ys ++ zs := by
  constructor
  · rintro ⟨done, j, rest, ys, zs, outcomes, hi, hd, hf, rfl⟩
    cases hd with
    | nil =>
      obtain ⟨rfl, _⟩ := List.cons.inj hi
      exact Or.inl hf
    | @cons _ done ys₁ ys₂ applied later h hr =>
      obtain ⟨rfl, hrest⟩ := List.cons.inj hi
      refine Or.inr ⟨ys₁, applied, ys₂ ++ zs, h, ?_, by simp⟩
      exact ⟨done, j, rest, ys₂, zs, later, hrest, hr, hf, rfl⟩
  · rintro (hf | ⟨ys, applied, _, h, ⟨done, j, rest, ys₂, zs, outcomes, rfl, hd, hf, rfl⟩, rfl⟩)
    · exact ⟨[], i, is, [], xs, [], rfl, .nil, hf, rfl⟩
    · exact ⟨i :: done, j, rest, ys ++ ys₂, zs, applied :: outcomes, rfl, .cons h hd, hf, by simp⟩

theorem ends_applyAll_error_iff :
    (Handler.applyAll (is.map (r.handler c))).Ends xs (.error f) ↔ r.Stopped c is xs f := by
  induction is generalizing xs with
  | nil =>
    rw [List.map_nil, Handler.applyAll, Attempt.ends_pure_iff]
    constructor
    · rintro ⟨_, hr⟩
      cases hr
    · intro h
      exact absurd h not_stopped_nil
  | cons i rest ih =>
    rw [List.map_cons, Handler.applyAll, Attempt.ends_bind_error_iff, stopped_cons_iff]
    simp only [ends_apply_error_iff, ends_apply_ok_iff, Attempt.ends_bind_pure_error_iff, ih]

end Roster

namespace Attempt
variable {Q : Type} {A : Q → Type} {α β : Type} {xs ys zs : List (Exchange Q A)}
  {operation : Q → String} {spared : Q → Failure → Prop} {own : Failure → Prop}

/-- After these exchanges the attempt makes this call, if the token is not cancelled by then. -/
def Due (a : Attempt Q A α) (xs : List (Exchange Q A)) (q : Q) : Prop :=
  ∀ reply, ∃ ys r, a.Ends (xs ++ ⟨q, reply⟩ :: ys) r

theorem Due.bind {a : Attempt Q A α} {q : Q} (h : a.Due xs q) (f : α → Attempt Q A β) :
    (a >>= f).Due xs q := by
  intro reply
  obtain ⟨ys, r, hr⟩ := h reply
  cases r with
  | error e => exact ⟨ys, .error e, ends_bind_error_iff.mpr (Or.inl hr)⟩
  | ok v =>
    obtain ⟨zs, r, hz⟩ := Pass.exists_ends (f v).run
    refine ⟨ys ++ zs, r, ends_bind_iff.mpr (Or.inr ⟨_, v, zs, hr, hz, by simp⟩)⟩

theorem Due.after {a : Attempt Q A α} {f : α → Attempt Q A β} {v : α} {q : Q}
    (h : (f v).Due zs q) (ha : a.Ends ys (.ok v)) : (a >>= f).Due (ys ++ zs) q := by
  intro reply
  obtain ⟨ws, r, hr⟩ := h reply
  exact ⟨ws, r, ends_bind_iff.mpr (Or.inr ⟨ys, v, _, ha, hr, by simp⟩)⟩

/-- A call that does not succeed ends the attempt with its failure, unless the call is spared. The
attempt fails only for its last call, for a call that was due when the token was cancelled, or for a
reason of its own. -/
structure Heeds (operation : Q → String) (spared : Q → Failure → Prop) (own : Failure → Prop)
    (a : Attempt Q A α) : Prop where
  last : ∀ xs r, a.Ends xs r → ∀ pre x post f, xs = pre ++ x :: post →
    x.reply.resultOf (operation x.call) = .error f → spared x.call f ∨ post = [] ∧ r = .error f
  cause : ∀ xs f, a.Ends xs (.error f) →
    (∃ pre x, xs = pre ++ [x] ∧ x.reply.resultOf (operation x.call) = .error f) ∨
    (∃ q, a.Due xs q ∧ f = .cancelled (operation q)) ∨ own f

theorem heeds_of_idle {a : Attempt Q A α}
    (h : ∀ xs r, a.Ends xs r → xs = [] ∧ ∀ f, r = .error f → own f) :
    Heeds operation spared own a := by
  constructor
  · intro xs r he pre x post f hx
    rw [(h xs r he).1] at hx
    simp at hx
  · intro xs f he
    exact Or.inr (Or.inr ((h xs _ he).2 f rfl))

theorem heeds_pure (v : α) : Heeds operation spared own (pure v : Attempt Q A α) :=
  heeds_of_idle fun xs r h => by
    obtain ⟨rfl, rfl⟩ := ends_pure_iff.mp h
    simp

theorem heeds_throw {f : Failure} (hf : own f) :
    Heeds operation spared own (throw f : Attempt Q A α) :=
  heeds_of_idle fun xs r h => by
    obtain ⟨rfl, rfl⟩ := ends_throw_iff.mp h
    simpa using hf

theorem heeds_now : Heeds operation spared own (now : Attempt Q A Timestamp) :=
  heeds_of_idle fun xs r h => by
    obtain ⟨rfl, t, rfl⟩ := ends_now_iff.mp h
    simp

theorem Heeds.bind {a : Attempt Q A α} {f : α → Attempt Q A β}
    (ha : Heeds operation spared own a) (hf : ∀ v, Heeds operation spared own (f v)) :
    Heeds operation spared own (a >>= f) := by
  constructor
  · intro xs r h pre x post e hx hr
    rcases ends_bind_iff.mp h with ⟨e', ha', rfl⟩ | ⟨ys, v, zs, hy, hz, rfl⟩
    · simpa using ha.last xs _ ha' pre x post e hx hr
    · rcases append_eq_append_cons_iff.mp hx with ⟨ws, hyw, rfl⟩ | ⟨ws, _, hzw⟩
      · -- The first part succeeded, so it has seen no failure that is not spared.
        rcases ha.last ys _ hy pre x ws e hyw hr with hs | ⟨_, he⟩
        · exact Or.inl hs
        · cases he
      · exact (hf v).last zs r hz ws x post e hzw hr
  · intro xs e h
    rcases ends_bind_error_iff.mp h with ha' | ⟨ys, v, zs, hy, hz, rfl⟩
    · rcases ha.cause xs e ha' with hc | ⟨q, hd, he⟩ | ho
      · exact Or.inl hc
      · exact Or.inr (Or.inl ⟨q, hd.bind f, he⟩)
      · exact Or.inr (Or.inr ho)
    · rcases (hf v).cause zs e hz with ⟨pre, x, rfl, hr⟩ | ⟨q, hd, he⟩ | ho
      · exact Or.inl ⟨ys ++ pre, x, by simp, hr⟩
      · exact Or.inr (Or.inl ⟨q, hd.after hy, he⟩)
      · exact Or.inr (Or.inr ho)

theorem heeds_race_ask (q : Q) :
    Heeds operation spared own ((Task.ask q id : Task Q A (A q)).race (operation q)) := by
  constructor
  · intro xs r h pre x post f hx hr
    rcases Task.ends_race_ask_iff.mp h with ⟨rfl, _⟩ | ⟨reply, rfl, rfl⟩
    · simp at hx
    · cases pre with
      | nil =>
        obtain ⟨rfl, rfl⟩ : ⟨q, reply⟩ = x ∧ [] = post := by simpa using hx
        exact Or.inr ⟨rfl, hr⟩
      | cons y pre => simp at hx
  · intro xs f h
    cases Task.ends_race_ask_error_iff.mp h with
    | due =>
      refine Or.inr (Or.inl ⟨q, fun reply => ?_, rfl⟩)
      exact ⟨[], _, Task.ends_race_ask_iff.mpr (Or.inr ⟨reply, rfl, rfl⟩)⟩
    | failed => exact Or.inl ⟨[], _, rfl, rfl⟩
    | interrupted => exact Or.inl ⟨[], _, rfl, rfl⟩

end Attempt

namespace Roster
variable {ι : Type} (r : Roster ι) (is : List ι) (settings : Settings) (b : Build)

/-- A deployment that fails is an outcome to record; only one that is cancelled ends the pass. -/
def Spared : Errand ι → Failure → Prop
  | .deploy .., f => ∀ operation, f ≠ .cancelled operation
  | _, _ => False

/-- The one failure that no call has: the status of a build without a namespace is not written. -/
def Homeless (f : Failure) : Prop := ∃ name, f = .missingNamespace "Build" name

/-- Failures end the attempt, but for those of deployments. -/
abbrev Heeded {α : Type} (a : Attempt (Errand ι) Errand.Answer α) : Prop :=
  a.Heeds r.operation Spared Homeless

theorem heeded_race (q : Errand ι) : r.Heeded ((Task.ask q id).race (r.operation q)) :=
  Attempt.heeds_race_ask q

theorem composes_heeds : Attempt.Composes fun {α : Type} (a : Attempt (Errand ι) Errand.Answer α) =>
    r.Heeded a := ⟨Attempt.heeds_pure, Attempt.Heeds.bind⟩

theorem heeded_deployArtifact (artifact : String) :
    r.Heeded ((r.reconciler is settings).deployArtifact b artifact) := by
  have hrace := r.heeded_race (.deploy b artifact)
  have hcall : Attempt.Makes (fun q => q = .deploy b artifact)
      ((Task.ask (.deploy b artifact) id : Task (Errand ι) Errand.Answer Unit).race
        "apply deployment") := Task.makes_race_ask rfl
  constructor
  · intro xs out h pre x post f hx hr
    obtain ⟨applied, ha, hm⟩ := Reconciler.ends_deployArtifact_iff.mp h
    rcases hrace.last xs applied ha pre x post f hx hr with hs | ⟨hpost, rfl⟩
    · exact Or.inl hs
    · rcases hm with ⟨operation, he, rfl⟩ | ⟨hne, _⟩
      · obtain rfl := Except.error.inj he
        exact Or.inr ⟨hpost, rfl⟩
      · left
        have hdeploy : x.call = .deploy b artifact := hcall xs _ ha x (by simp [hx])
        rw [hdeploy]
        intro operation he
        exact hne operation (congrArg Except.error he)
  · intro xs f h
    obtain ⟨applied, ha, ⟨operation, rfl, he⟩ | ⟨_, _, he⟩⟩ :=
      Reconciler.ends_deployArtifact_iff.mp h
    · obtain rfl : f = .cancelled operation := by injection he
      rcases hrace.cause xs _ ha with hc | ⟨q, hd, hq⟩ | ho
      · exact Or.inl hc
      · refine Or.inr (Or.inl ⟨q, fun reply => ?_, hq⟩)
        obtain ⟨ys, applied, hy⟩ := hd reply
        by_cases hcancel : ∃ operation, applied = .error (.cancelled operation)
        · obtain ⟨operation, rfl⟩ := hcancel
          exact ⟨ys, _, Reconciler.ends_deployArtifact_iff.mpr
            ⟨_, hy, Or.inl ⟨operation, rfl, rfl⟩⟩⟩
        · exact ⟨ys, _, Reconciler.ends_deployArtifact_iff.mpr
            ⟨_, hy, Or.inr ⟨not_exists.mp hcancel, .epoch, rfl⟩⟩⟩
      · exact Or.inr (Or.inr ho)
    · cases he

theorem heeded_reconcile : r.Heeded ((r.reconciler is settings).reconcile b) := by
  have hrace := r.heeded_race
  have happly : ∀ h ∈ (r.reconciler is settings).handlers ⟨b, settings⟩, r.Heeded h.apply := by
    intro h hm
    obtain ⟨i, _, rfl⟩ := List.mem_map.mp hm
    exact r.composes_heeds.apply (hrace (.get _ i)) (hrace (.create _ i))
      (fun current => hrace (.update _ i current)) (hrace (.delete _ i))
  have hpersist (next : Build) : r.Heeded ((r.reconciler is settings).persistStatus next) :=
    r.composes_heeds.persistStatus (Attempt.heeds_throw ⟨_, rfl⟩) fun space status =>
      hrace (.patchStatus space next.displayName status)
  have hpublication : r.Heeded ((r.reconciler is settings).publishAndDeploy b) :=
    r.composes_heeds.publishAndDeploy Attempt.heeds_now (hrace (.publish b))
      (r.heeded_deployArtifact is settings) hpersist
  exact r.composes_heeds.reconcile happly hpublication

theorem makes_publishAndDeploy : Attempt.Makes (fun q => q.handler? = none)
    ((r.reconciler is settings).publishAndDeploy b) := by
  have hdeploy (next : Build) (artifact : String) : Attempt.Makes (fun q => q.handler? = none)
      ((r.reconciler is settings).deployArtifact next artifact) :=
    Attempt.composes_makes.deployArtifact Attempt.makes_now
      (Attempt.Makes.result (Task.makes_race_ask rfl)) fun _ => Attempt.makes_throw _
  have hpersist (next : Build) : Attempt.Makes (fun q => q.handler? = none)
      ((r.reconciler is settings).persistStatus next) :=
    Attempt.composes_makes.persistStatus (Attempt.makes_throw _) fun _ _ => Task.makes_race_ask rfl
  exact Attempt.composes_makes.publishAndDeploy Attempt.makes_now (Task.makes_race_ask rfl) hdeploy
    hpersist

theorem ends_reconcile_iff {xs : List (Exchange (Errand ι) Errand.Answer)}
    {result : Except Failure Action} : ((r.reconciler is settings).reconcile b).Ends xs result ↔
      (∃ f, r.Stopped ⟨b, settings⟩ is xs f ∧ result = .error f) ∨
      ∃ ys zs outcomes, r.TendedAll ⟨b, settings⟩ is ys outcomes ∧ xs = ys ++ zs ∧
        if b.artifactPending then
          ∃ published, ((r.reconciler is settings).publishAndDeploy b).Ends zs published ∧
            result = published.map fun _ => .requeue resyncSeconds
        else zs = [] ∧ result = .ok (.requeue resyncSeconds) := by
  rw [Reconciler.reconcile_eq, Attempt.ends_bind_iff]
  refine or_congr ?_ ?_
  · exact exists_congr fun f => and_congr_left fun _ => ends_applyAll_error_iff
  · constructor
    · rintro ⟨ys, outcomes, zs, ht, hz, rfl⟩
      refine ⟨ys, zs, outcomes, ends_applyAll_ok_iff.mp ht, rfl, ?_⟩
      split at hz
      · next hp =>
        rw [if_pos hp]
        exact Attempt.ends_bind_pure_iff.mp hz
      · next hp =>
        rw [if_neg hp]
        exact Attempt.ends_pure_iff.mp hz
    · rintro ⟨ys, zs, outcomes, ht, rfl, hz⟩
      refine ⟨ys, outcomes, zs, ends_applyAll_ok_iff.mpr ht, ?_, rfl⟩
      split at hz
      · next hp =>
        rw [if_pos hp]
        exact Attempt.ends_bind_pure_iff.mpr hz
      · next hp =>
        rw [if_neg hp]
        exact Attempt.ends_pure_iff.mpr hz

/-- The second of three handlers finds nothing while the token is cancelled. -/
example :
    let roster : Roster Nat := ⟨fun i => toString i, fun i _ => decide (i ≠ 0)⟩
    let w : Surroundings Bool (Errand Nat) Errand.Answer := {
      cancelled := id
      now := fun _ => .epoch
      answer := fun
        | .get _ 1, _ => (.settled (.ok none), true)
        | .delete .., cancelled => (.settled (.ok ()), cancelled)
        | _, cancelled => (.interrupted, cancelled) }
    let b : Build := { metadata := {}, spec := { project := "shop", component := "checkout" } }
    let outcome := ((roster.reconciler [0, 1, 2] {}).reconcile b).run.run w false
    outcome.result = .error (.cancelled "create 1") ∧
      outcome.calls = [.delete ⟨b, {}⟩ 0, .get ⟨b, {}⟩ 1] := ⟨rfl, rfl⟩

end Roster
end BuildOperator
