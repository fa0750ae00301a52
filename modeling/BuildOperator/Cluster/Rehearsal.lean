import BuildOperator.Cluster.Call
import BuildOperator.Cluster.Store
/-!
# Rehearsals

Surroundings in which the passes of the operator can be rehearsed: a store of objects, the
statuses that were written, and faults that strike at planned calls.
-/
namespace BuildOperator

/-- The calls that a fault can strike, by name. -/
inductive CallName where
  | get
  | create
  | update
  | delete
  | patchStatus
  | publish
  | deploy
  deriving DecidableEq, Repr

def Call.name : Call → CallName
  | .cluster (.get _) => .get
  | .cluster (.create _) => .create
  | .cluster (.update _) => .update
  | .cluster (.delete _) => .delete
  | .cluster (.patchStatus ..) => .patchStatus
  | .publish _ => .publish
  | .deploy .. => .deploy

def Call.objectKind? : Call → Option ObjectKind
  | .cluster call => call.objectKind?
  | .publish _ | .deploy .. => none

/-- What a fault does to the call that it strikes. -/
inductive Strike where
  | fail (failure : Failure)
  | findObject (object : ManagedObject)
  | findNothing
  | publishAs (artifact : String)
  /-- Cancel the token; the call itself goes on. -/
  | cancel
  /-- Cancel the token; the call never ends. -/
  | hang
  deriving DecidableEq

/-- A fault strikes the call of that name and kind that comes at a planned place, or every one. -/
structure Fault where
  on : CallName
  kind : Option ObjectKind := none
  nth : Nat := 1
  always : Bool := false
  strike : Strike
  /-- How many calls of that name and kind there were since the fault was planned. -/
  seen : Nat := 0
  deriving DecidableEq

namespace Fault

def concerns (f : Fault) (call : Call) : Bool :=
  f.on = call.name ∧ (f.kind.isNone ∨ f.kind = call.objectKind?)

/-- Count a call that the fault concerns. -/
def count (f : Fault) (call : Call) : Fault :=
  if f.concerns call then { f with seen := f.seen + 1 } else f

/-- Whether the fault strikes a call that has just been counted. -/
def isDue (f : Fault) (call : Call) : Bool := f.concerns call && (f.always || f.seen == f.nth)

/-- The faults after a call, and what the first one that is due does to it. -/
def meet (faults : List Fault) (call : Call) : List Fault × Option Strike :=
  let faults := faults.map (·.count call)
  (faults, (faults.find? (·.isDue call)).map Fault.strike)

end Fault

structure Rehearsal {Place : Type} (place : ObjectKey → Place) where
  store : Store place := {}
  /-- Written statuses, by namespace and name of the build. -/
  statuses : List (String × BuildStatus) := []
  faults : List Fault := []
  cancelled : Bool := false
  now : Timestamp

namespace Rehearsal

variable {Place : Type} {place : ObjectKey → Place}

/-- Under what a status is kept. -/
def statusKey (space name : String) : String := space ++ "/" ++ name

def status? (s : Rehearsal place) (key : String) : Option BuildStatus := s.statuses.lookup key

def putStatus (s : Rehearsal place) (key : String) (status : BuildStatus) : Rehearsal place :=
  { s with statuses := (key, status) :: s.statuses.filter fun e => e.1 ≠ key }

/-- What a write to the store comes to. -/
def ofStore (s : Rehearsal place) :
    Except Failure (Store place) → Except Failure Unit × Rehearsal place
  | .ok store => (.ok (), { s with store })
  | .error failure => (.error failure, s)

variable [DecidableEq Place]

/-- The effect of a call that no fault keeps from it. -/
def perform : (call : Call) → Rehearsal place → Except Failure call.Answer × Rehearsal place
  | .cluster (.get key), s => (.ok (s.store.get? key), s)
  | .cluster (.create object), s => s.ofStore (s.store.create object)
  | .cluster (.update object), s => s.ofStore (s.store.update object)
  | .cluster (.delete key), s => (.ok (), { s with store := s.store.erase key })
  | .cluster (.patchStatus space name status), s =>
    (.ok (), s.putStatus (statusKey space name) status)
  | .publish build, s => (.ok (build.spec.component ++ "-" ++ toString build.generation.toInt), s)
  | .deploy build artifact, s => ((build.deployment artifact).map fun _ => (), s)

/-- The effect of a call that a fault strikes. A strike that does not suit the call has none. -/
def struck :
    (strike : Strike) → (call : Call) → Rehearsal place → Reply call.Answer × Rehearsal place
  | .hang, _, s => (.interrupted, { s with cancelled := true })
  | .fail failure, _, s => (.settled (.error failure), s)
  | .findObject object, .cluster (.get _), s => (.settled (.ok (some object)), s)
  | .findNothing, .cluster (.get _), s => (.settled (.ok none), s)
  | .publishAs artifact, .publish _, s => (.settled (.ok artifact), s)
  | .cancel, call, s =>
    let (result, s) := perform call { s with cancelled := true }
    (.settled result, s)
  | _, call, s =>
    let (result, s) := perform call s
    (.settled result, s)

def answer (call : Call) (s : Rehearsal place) : Reply call.Answer × Rehearsal place :=
  let (faults, strike) := Fault.meet s.faults call
  let s := { s with faults }
  match strike with
  | some strike => struck strike call s
  | none =>
    let (result, s) := perform call s
    (.settled result, s)

def surroundings : Surroundings (Rehearsal place) Call Call.Answer where
  cancelled := Rehearsal.cancelled
  now := Rehearsal.now
  answer := answer

end Rehearsal
end BuildOperator
