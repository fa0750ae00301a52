import BuildOperator.Failure
import BuildOperator.Timestamp.Basic
/-!
# Passes

A pass is work that calls its surroundings: it makes calls one at a time, reads the clock, and
looks at the token by which it can be cancelled. `Q` is the type of the calls, `A q` the type of
the answers to the call `q`. A pass only says what it does with each answer; `Pass.run` lets it run
in given surroundings.
-/
namespace BuildOperator

/-- How a call ends: it settles with a result, or it is interrupted by a cancellation. -/
inductive Reply (β : Type) where
  | settled (result : Except Failure β)
  | interrupted

def Reply.map {β γ : Type} (f : β → γ) : Reply β → Reply γ
  | .settled result => .settled (result.map f)
  | .interrupted => .interrupted

inductive Pass (Q : Type) (A : Q → Type) (α : Type) where
  | done (result : α)
  | clock (resume : Timestamp → Pass Q A α)
  | token (resume : Bool → Pass Q A α)
  | call (q : Q) (resume : Reply (A q) → Pass Q A α)

namespace Pass
variable {Q : Type} {A : Q → Type} {α β γ : Type}

def bind (p : Pass Q A α) (f : α → Pass Q A β) : Pass Q A β :=
  match p with
  | .done a => f a
  | .clock resume => .clock fun now => (resume now).bind f
  | .token resume => .token fun cancelled => (resume cancelled).bind f
  | .call q resume => .call q fun reply => (resume reply).bind f

instance : Monad (Pass Q A) where
  pure := .done
  bind := bind

theorem pure_eq_done (a : α) : (pure a : Pass Q A α) = .done a := rfl

theorem bind_eq (p : Pass Q A α) (f : α → Pass Q A β) : p >>= f = p.bind f := rfl

theorem bind_done (p : Pass Q A α) : p.bind .done = p := by
  induction p with
  | done => rfl
  | clock _ ih => simp [bind, ih]
  | token _ ih => simp [bind, ih]
  | call _ _ ih => simp [bind, ih]

theorem bind_assoc (p : Pass Q A α) (f : α → Pass Q A β) (g : β → Pass Q A γ) :
    (p.bind f).bind g = p.bind fun a => (f a).bind g := by
  induction p with
  | done => rfl
  | clock _ ih => simp [bind, ih]
  | token _ ih => simp [bind, ih]
  | call _ _ ih => simp [bind, ih]

instance : LawfulMonad (Pass Q A) := LawfulMonad.mk' _
  (fun p => bind_done p) (fun _ _ => rfl) (fun p f g => bind_assoc p f g)

/-- The time on the clock. -/
def now : Pass Q A Timestamp := .clock .done

end Pass

/-- A pass that can fail. -/
abbrev Attempt (Q : Type) (A : Q → Type) (α : Type) := ExceptT Failure (Pass Q A) α

namespace Attempt
variable {Q : Type} {A : Q → Type} {α : Type}

/-- The time on the clock. -/
def now : Attempt Q A Timestamp := ExceptT.lift Pass.now

/-- The result of a pass, its failure included. -/
def result (a : Attempt Q A α) : Attempt Q A (Except Failure α) := ExceptT.lift a.run

/-- A result that was had already. -/
def ofResult (r : Except Failure α) : Attempt Q A α := ExceptT.mk (pure r)

end Attempt

/-- Work of at most one call: it settles at once, or it reads the answer to a call. -/
inductive Task (Q : Type) (A : Q → Type) (β : Type) where
  | settle (result : Except Failure β)
  | ask (q : Q) (read : A q → β)

namespace Task
variable {Q : Type} {A : Q → Type} {β : Type}

/-- A task without a token to look at. -/
def perform : Task Q A β → Pass Q A (Reply β)
  | .settle result => .done (.settled result)
  | .ask q read => .call q fun reply => .done (reply.map read)

/-- A task that races the token: it does not start once the token is cancelled, and a cancellation
that interrupts it is its failure. -/
def race (operation : String) (t : Task Q A β) : Attempt Q A β :=
  ExceptT.mk <| .token fun cancelled =>
    if cancelled then .done (.error (.cancelled operation))
    else t.perform.bind fun reply =>
      match reply with
      | .settled result => .done result
      | .interrupted => .done (.error (.cancelled operation))

end Task

/-- What a pass runs in: a state with a token, a clock, and an answer to each call. -/
structure Surroundings (σ Q : Type) (A : Q → Type) where
  cancelled : σ → Bool
  now : σ → Timestamp
  answer : (q : Q) → σ → Reply (A q) × σ

/-- A call together with its reply. -/
structure Exchange (Q : Type) (A : Q → Type) where
  call : Q
  reply : Reply (A call)

/-- What a pass comes to: its result, its exchanges in order, and the state after it. -/
structure Outcome (σ Q : Type) (A : Q → Type) (α : Type) where
  result : α
  exchanges : List (Exchange Q A)
  state : σ

def Pass.run {σ Q : Type} {A : Q → Type} {α : Type} (w : Surroundings σ Q A) :
    Pass Q A α → σ → Outcome σ Q A α
  | .done result, s => ⟨result, [], s⟩
  | .clock resume, s => (resume (w.now s)).run w s
  | .token resume, s => (resume (w.cancelled s)).run w s
  | .call q resume, s =>
    let (reply, s) := w.answer q s
    let later := (resume reply).run w s
    { later with exchanges := ⟨q, reply⟩ :: later.exchanges }

namespace Outcome
variable {σ Q : Type} {A : Q → Type} {α : Type}

def calls (o : Outcome σ Q A α) : List Q := o.exchanges.map Exchange.call

end Outcome
end BuildOperator
