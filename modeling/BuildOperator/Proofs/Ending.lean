import BuildOperator.Pass.Basic
/-!
# Endings of passes

How a pass may end when nothing is known of its surroundings: every reading of the clock and of the
token and every reply is possible at any time. What holds of all endings of a pass therefore holds
of its run in any surroundings.
-/
namespace BuildOperator
variable {Q : Type} {A : Q → Type} {α β : Type}

theorem append_eq_append_cons_iff {ys zs pre post : List α} {x : α} :
    ys ++ zs = pre ++ x :: post ↔ (∃ ws, ys = pre ++ x :: ws ∧ post = ws ++ zs) ∨
      ∃ ws, pre = ys ++ ws ∧ zs = ws ++ x :: post := by
  rw [List.append_eq_append_iff]
  constructor
  · rintro (⟨ws, hpre, hz⟩ | ⟨_ | ⟨w, ws⟩, hy, hx⟩)
    · exact Or.inr ⟨ws, hpre, hz⟩
    · exact Or.inr ⟨[], by simpa using hy.symm, hx.symm⟩
    · obtain ⟨rfl, rfl⟩ := List.cons.inj hx
      exact Or.inl ⟨ws, hy, rfl⟩
  · rintro (⟨ws, rfl, rfl⟩ | ⟨ws, rfl, rfl⟩)
    · exact Or.inr ⟨x :: ws, rfl, rfl⟩
    · exact Or.inl ⟨ws, rfl, rfl⟩

theorem concat_eq_append_cons_iff {log pre post : List α} {e x : α} :
    log ++ [e] = pre ++ x :: post ↔ (∃ ws, log = pre ++ x :: ws ∧ post = ws ++ [e]) ∨
      log = pre ∧ e = x ∧ post = [] := by
  rw [append_eq_append_cons_iff]
  refine or_congr Iff.rfl ?_
  constructor
  · rintro ⟨_ | ⟨w, ws⟩, rfl, he⟩
    · obtain ⟨rfl, rfl⟩ := List.cons.inj he
      simp
    · simp at he
  · rintro ⟨rfl, rfl, rfl⟩
    exact ⟨[], by simp, rfl⟩

/-- A pass may end with this result after these exchanges. -/
inductive Pass.Ends : Pass Q A α → List (Exchange Q A) → α → Prop where
  | done (a : α) : Ends (.done a) [] a
  | clock {resume : Timestamp → Pass Q A α} {xs : List (Exchange Q A)} {a : α} (now : Timestamp)
      (h : Ends (resume now) xs a) : Ends (.clock resume) xs a
  | token {resume : Bool → Pass Q A α} {xs : List (Exchange Q A)} {a : α} (cancelled : Bool)
      (h : Ends (resume cancelled) xs a) : Ends (.token resume) xs a
  | call {q : Q} {resume : Reply (A q) → Pass Q A α} {xs : List (Exchange Q A)} {a : α}
      (reply : Reply (A q)) (h : Ends (resume reply) xs a) :
      Ends (.call q resume) (⟨q, reply⟩ :: xs) a

namespace Pass
variable {xs : List (Exchange Q A)} {a : α}

/-- A run in any surroundings is one of the endings. -/
theorem ends_run {σ : Type} (w : Surroundings σ Q A) (p : Pass Q A α) (s : σ) :
    p.Ends (p.run w s).exchanges (p.run w s).result := by
  induction p generalizing s with
  | done a => exact .done a
  | clock resume ih => exact .clock _ (ih _ s)
  | token resume ih => exact .token _ (ih _ s)
  | call q resume ih => exact .call _ (ih _ _)

theorem exists_ends (p : Pass Q A α) : ∃ xs a, p.Ends xs a := by
  induction p with
  | done a => exact ⟨[], a, .done a⟩
  | clock resume ih =>
    obtain ⟨xs, a, h⟩ := ih .epoch
    exact ⟨xs, a, .clock _ h⟩
  | token resume ih =>
    obtain ⟨xs, a, h⟩ := ih false
    exact ⟨xs, a, .token _ h⟩
  | call q resume ih =>
    obtain ⟨xs, a, h⟩ := ih .interrupted
    exact ⟨_, a, .call _ h⟩

@[simp] theorem ends_done_iff {a' : α} :
    (.done a' : Pass Q A α).Ends xs a ↔ xs = [] ∧ a = a' := by
  constructor
  · intro h
    cases h
    exact ⟨rfl, rfl⟩
  · rintro ⟨rfl, rfl⟩
    exact .done _

@[simp] theorem ends_pure_iff {a' : α} :
    (pure a' : Pass Q A α).Ends xs a ↔ xs = [] ∧ a = a' := ends_done_iff

@[simp] theorem ends_clock_iff {resume : Timestamp → Pass Q A α} :
    (.clock resume : Pass Q A α).Ends xs a ↔ ∃ now, (resume now).Ends xs a := by
  constructor
  · rintro (_ | ⟨now, h⟩)
    exact ⟨now, h⟩
  · rintro ⟨now, h⟩
    exact .clock now h

@[simp] theorem ends_token_iff {resume : Bool → Pass Q A α} :
    (.token resume : Pass Q A α).Ends xs a ↔ ∃ cancelled, (resume cancelled).Ends xs a := by
  constructor
  · rintro (_ | _ | ⟨cancelled, h⟩)
    exact ⟨cancelled, h⟩
  · rintro ⟨cancelled, h⟩
    exact .token cancelled h

@[simp] theorem ends_call_iff {q : Q} {resume : Reply (A q) → Pass Q A α} :
    (.call q resume : Pass Q A α).Ends xs a ↔
      ∃ reply ys, xs = ⟨q, reply⟩ :: ys ∧ (resume reply).Ends ys a := by
  constructor
  · rintro (_ | _ | _ | ⟨reply, h⟩)
    exact ⟨reply, _, rfl, h⟩
  · rintro ⟨reply, ys, rfl, h⟩
    exact .call reply h

/-- A sequence ends where its second part does, with the exchanges of both parts. -/
theorem ends_bind_iff {p : Pass Q A α} {f : α → Pass Q A β} {c : β} :
    (p.bind f).Ends xs c ↔ ∃ ys a zs, p.Ends ys a ∧ (f a).Ends zs c ∧ xs = ys ++ zs := by
  induction p generalizing xs with
  | done a =>
    simp only [bind, ends_done_iff]
    constructor
    · intro h
      exact ⟨[], a, xs, ⟨rfl, rfl⟩, h, rfl⟩
    · rintro ⟨_, _, zs, ⟨rfl, rfl⟩, h, rfl⟩
      exact h
  | clock resume ih =>
    simp only [bind, ends_clock_iff, ih]
    constructor
    · rintro ⟨now, ys, a, zs, h, hf, hx⟩
      exact ⟨ys, a, zs, ⟨now, h⟩, hf, hx⟩
    · rintro ⟨ys, a, zs, ⟨now, h⟩, hf, hx⟩
      exact ⟨now, ys, a, zs, h, hf, hx⟩
  | token resume ih =>
    simp only [bind, ends_token_iff, ih]
    constructor
    · rintro ⟨cancelled, ys, a, zs, h, hf, hx⟩
      exact ⟨ys, a, zs, ⟨cancelled, h⟩, hf, hx⟩
    · rintro ⟨ys, a, zs, ⟨cancelled, h⟩, hf, hx⟩
      exact ⟨cancelled, ys, a, zs, h, hf, hx⟩
  | call q resume ih =>
    simp only [bind, ends_call_iff, ih]
    constructor
    · rintro ⟨reply, _, rfl, ys, a, zs, h, hf, rfl⟩
      exact ⟨⟨q, reply⟩ :: ys, a, zs, ⟨reply, ys, rfl, h⟩, hf, rfl⟩
    · rintro ⟨_, a, zs, ⟨reply, ys, rfl, h⟩, hf, rfl⟩
      exact ⟨reply, ys ++ zs, rfl, ys, a, zs, h, hf, rfl⟩

end Pass

namespace Attempt
variable {xs : List (Exchange Q A)}

/-- An attempt may end with this result after these exchanges. -/
def Ends (a : Attempt Q A α) (xs : List (Exchange Q A)) (r : Except Failure α) : Prop :=
  Pass.Ends a.run xs r

theorem ends_pure_iff {v : α} {r : Except Failure α} :
    (pure v : Attempt Q A α).Ends xs r ↔ xs = [] ∧ r = .ok v := Pass.ends_done_iff

theorem ends_throw_iff {f : Failure} {r : Except Failure α} :
    (throw f : Attempt Q A α).Ends xs r ↔ xs = [] ∧ r = .error f := Pass.ends_done_iff

/-- A sequence of attempts ends at the failure of the first, or where the second does. -/
theorem ends_bind_iff {a : Attempt Q A α} {f : α → Attempt Q A β} {r : Except Failure β} :
    (a >>= f).Ends xs r ↔ (∃ e, a.Ends xs (.error e) ∧ r = .error e) ∨
      ∃ ys v zs, a.Ends ys (.ok v) ∧ (f v).Ends zs r ∧ xs = ys ++ zs := by
  unfold Ends
  rw [ExceptT.run_bind, Pass.bind_eq, Pass.ends_bind_iff]
  constructor
  · rintro ⟨ys, v | v, zs, h, hf, rfl⟩
    · obtain ⟨rfl, rfl⟩ := Pass.ends_done_iff.mp hf
      exact Or.inl ⟨v, by simpa using h, rfl⟩
    · exact Or.inr ⟨ys, v, zs, h, hf, rfl⟩
  · rintro (⟨e, h, rfl⟩ | ⟨ys, v, zs, h, hf, rfl⟩)
    · exact ⟨xs, .error e, [], h, Pass.ends_done_iff.mpr ⟨rfl, rfl⟩, by simp⟩
    · exact ⟨ys, .ok v, zs, h, hf, rfl⟩

theorem ends_bind_ok_iff {a : Attempt Q A α} {f : α → Attempt Q A β} {v : β} :
    (a >>= f).Ends xs (.ok v) ↔
      ∃ ys u zs, a.Ends ys (.ok u) ∧ (f u).Ends zs (.ok v) ∧ xs = ys ++ zs := by
  simp [ends_bind_iff]

theorem ends_bind_pure_iff {a : Attempt Q A α} {g : α → β} {r : Except Failure β} :
    (a >>= fun v => pure (g v)).Ends xs r ↔ ∃ r', a.Ends xs r' ∧ r = r'.map g := by
  rw [ends_bind_iff]
  constructor
  · rintro (⟨e, h, rfl⟩ | ⟨ys, v, zs, h, hp, rfl⟩)
    · exact ⟨.error e, h, rfl⟩
    · obtain ⟨rfl, rfl⟩ := ends_pure_iff.mp hp
      exact ⟨.ok v, by rwa [List.append_nil], rfl⟩
  · rintro ⟨e | v, h, rfl⟩
    · exact Or.inl ⟨e, h, rfl⟩
    · exact Or.inr ⟨xs, v, [], h, ends_pure_iff.mpr ⟨rfl, rfl⟩, by simp⟩

theorem ends_lift_iff {p : Pass Q A α} {r : Except Failure α} :
    (ExceptT.lift p : Attempt Q A α).Ends xs r ↔ ∃ v, p.Ends xs v ∧ r = .ok v := by
  change (p.bind fun v => .done (.ok v)).Ends xs r ↔ _
  rw [Pass.ends_bind_iff]
  constructor
  · rintro ⟨ys, v, zs, h, hd, rfl⟩
    obtain ⟨rfl, rfl⟩ := Pass.ends_done_iff.mp hd
    exact ⟨v, by simpa using h, rfl⟩
  · rintro ⟨v, h, rfl⟩
    exact ⟨xs, v, [], h, .done _, by simp⟩

theorem ends_now_iff {r : Except Failure Timestamp} :
    (now : Attempt Q A Timestamp).Ends xs r ↔ xs = [] ∧ ∃ t, r = .ok t := by
  refine ends_lift_iff.trans ?_
  simp only [Pass.now, Pass.ends_clock_iff, Pass.ends_done_iff]
  constructor
  · rintro ⟨t, ⟨_, hx, rfl⟩, rfl⟩
    exact ⟨hx, t, rfl⟩
  · rintro ⟨hx, t, rfl⟩
    exact ⟨t, ⟨t, hx, rfl⟩, rfl⟩

theorem ends_result_iff {a : Attempt Q A α} {r : Except Failure (Except Failure α)} :
    (result a).Ends xs r ↔ ∃ v, a.Ends xs v ∧ r = .ok v := ends_lift_iff

/-- Whatever an attempt comes to, its calls are all of this kind. -/
def Makes (p : Q → Prop) (a : Attempt Q A α) : Prop :=
  ∀ xs r, a.Ends xs r → ∀ x ∈ xs, p x.call

section
variable {p : Q → Prop}

theorem makes_pure (v : α) : Makes p (pure v : Attempt Q A α) := by
  intro xs r h x hx
  obtain ⟨rfl, _⟩ := ends_pure_iff.mp h
  simp at hx

theorem makes_throw (f : Failure) : Makes p (throw f : Attempt Q A α) := by
  intro xs r h x hx
  obtain ⟨rfl, _⟩ := ends_throw_iff.mp h
  simp at hx

theorem makes_now : Makes p (now : Attempt Q A Timestamp) := by
  intro xs r h x hx
  obtain ⟨rfl, _⟩ := ends_now_iff.mp h
  simp at hx

theorem Makes.result {a : Attempt Q A α} (ha : Makes p a) : Makes p (Attempt.result a) := by
  intro xs r h
  obtain ⟨v, hv, _⟩ := ends_result_iff.mp h
  exact ha xs v hv

theorem Makes.bind {a : Attempt Q A α} {f : α → Attempt Q A β} (ha : Makes p a)
    (hf : ∀ v, Makes p (f v)) : Makes p (a >>= f) := by
  intro xs r h x hx
  rcases ends_bind_iff.mp h with ⟨e, he, _⟩ | ⟨ys, v, zs, hy, hz, rfl⟩
  · exact ha xs _ he x hx
  · rcases List.mem_append.mp hx with hx | hx
    · exact ha ys _ hy x hx
    · exact hf v zs r hz x hx

end
end Attempt

/-- The result of a call that was raced under this name. -/
def Reply.resultOf (operation : String) : Reply β → Except Failure β
  | .settled result => result
  | .interrupted => .error (.cancelled operation)

theorem Reply.resultOf_eq_ok_iff {operation : String} {reply : Reply β} {v : β} :
    reply.resultOf operation = .ok v ↔ reply = .settled (.ok v) := by
  rcases reply with result | _ <;> simp [resultOf]

/-- A call that is raced is not made at all, or it is the only exchange and its reply decides. -/
theorem Task.ends_race_ask_iff {operation : String} {q : Q} {xs : List (Exchange Q A)}
    {r : Except Failure (A q)} : ((Task.ask q id).race operation).Ends xs r ↔
      (xs = [] ∧ r = .error (.cancelled operation)) ∨
        ∃ reply, xs = [⟨q, reply⟩] ∧ r = reply.resultOf operation := by
  simp only [race, Attempt.Ends, ExceptT.run_mk, Pass.ends_token_iff, Bool.exists_bool, perform,
    Pass.bind, Bool.false_eq_true, if_false, if_true, Pass.ends_call_iff, Pass.ends_done_iff]
  -- What follows the call is done at once, with the result of its reply.
  constructor
  · rintro (⟨reply, ys, rfl, h⟩ | h)
    · refine Or.inr ⟨reply, ?_⟩
      rcases reply with (_ | _) | _ <;> obtain ⟨rfl, rfl⟩ := Pass.ends_done_iff.mp h <;>
        exact ⟨rfl, rfl⟩
    · exact Or.inl h
  · rintro (h | ⟨reply, rfl, rfl⟩)
    · exact Or.inr h
    · refine Or.inl ⟨reply, [], rfl, ?_⟩
      rcases reply with (_ | _) | _ <;> exact .done _

theorem Task.makes_race_settle {p : Q → Prop} {operation : String} (result : Except Failure β) :
    Attempt.Makes p ((Task.settle result : Task Q A β).race operation) := by
  intro xs r h x hx
  simp only [race, Attempt.Ends, ExceptT.run_mk, Pass.ends_token_iff, Bool.exists_bool, perform,
    Pass.bind, Bool.false_eq_true, if_false, if_true, Pass.ends_done_iff] at h
  rcases h with ⟨rfl, _⟩ | ⟨rfl, _⟩ <;> simp at hx

theorem Task.makes_race_ask {p : Q → Prop} {operation : String} {q : Q} (hq : p q) :
    Attempt.Makes p ((Task.ask q id : Task Q A (A q)).race operation) := by
  intro xs r h x hx
  rcases ends_race_ask_iff.mp h with ⟨rfl, _⟩ | ⟨reply, rfl, _⟩
  · simp at hx
  · obtain rfl := List.mem_singleton.mp hx
    exact hq

end BuildOperator
