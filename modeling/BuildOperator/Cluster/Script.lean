import BuildOperator.Pass.Handler
/-!
# Scripted handlers

Handlers whose methods do what a script says, to rehearse how handlers are applied.
-/
namespace BuildOperator

/-- What a scripted method does. -/
inductive Behaviour where
  | succeed
  | fail (failure : Failure)
  /-- Cancel the token, then succeed. -/
  | cancel
  /-- Cancel the token and never end. -/
  | hang
  deriving DecidableEq

structure Script where
  name : String
  required : Bool := true
  /-- The object that the handler finds. -/
  found : Option ManagedObject := none
  onGet : Behaviour := .succeed
  onCreate : Behaviour := .succeed
  onUpdate : Behaviour := .succeed
  onDelete : Behaviour := .succeed
  deriving DecidableEq

inductive ScriptCall where
  | get (script : Script)
  | create (script : Script)
  | update (script : Script) (current : ManagedObject)
  | delete (script : Script)
  deriving DecidableEq

abbrev ScriptCall.Answer : ScriptCall → Type
  | .get _ => Option ManagedObject
  | .create _ | .update .. | .delete _ => Unit

namespace Script

def handler (s : Script) : Handler ScriptCall ScriptCall.Answer where
  name := s.name
  required := s.required
  current := .ask (.get s) id
  create := .ask (.create s) id
  update := fun current => .ask (.update s current) id
  delete := .ask (.delete s) id

/-- The reply of a method with that behaviour, and the token after it. -/
def play {β : Type} (behaviour : Behaviour) (result : β) (cancelled : Bool) : Reply β × Bool :=
  match behaviour with
  | .succeed => (.settled (.ok result), cancelled)
  | .fail failure => (.settled (.error failure), cancelled)
  | .cancel => (.settled (.ok result), true)
  | .hang => (.interrupted, true)

def answer : (call : ScriptCall) → Bool → Reply call.Answer × Bool
  | .get s => play s.onGet s.found
  | .create s => play s.onCreate ()
  | .update s _ => play s.onUpdate ()
  | .delete s => play s.onDelete ()

/-- Surroundings whose state is the token; their clock stands still. -/
def surroundings (now : Timestamp) : Surroundings Bool ScriptCall ScriptCall.Answer where
  cancelled := id
  now := fun _ => now
  answer := answer

end Script
end BuildOperator
