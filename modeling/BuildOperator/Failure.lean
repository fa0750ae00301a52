import BuildOperator.Managed.Object
import BuildOperator.Text.Quoted
/-!
# Failures

Why the work on a build ends early. A failure knows its message, whether it is worth another
attempt, and what the operator does next.
-/
namespace BuildOperator

/-- What the interface of the cluster answers where it refuses a request. -/
structure Refusal where
  status : String
  message : String
  reason : String
  code : UInt16
  deriving DecidableEq

/-- Why a request to the cluster failed. -/
inductive ApiFailure where
  | refused (answer : Refusal)
  | unnamed
  | fieldManagerOfCreate
  | fieldManagerOfPatch
  /-- The address of a request has a character that none may have. -/
  | addressCharacter
  | addressLength
  | tlsRequired
  | lineBreak
  | readEvents (message : String)
  | service (message : String)
  /-- A response that is no refusal does not hold what was asked for. -/
  | unreadable
  deriving DecidableEq

namespace ApiFailure

/-- The message of a request that is refused for what it asks. -/
def invalidRequest (problem : String) : String :=
  "Failed to build request: failed to validate request: " ++ problem

/-- The message of a request that cannot be written. -/
def unwritableRequest (problem : String) : String :=
  "Failed to build request: failed to build request: " ++ problem

def message : ApiFailure → String
  | .refused a =>
    "ApiError: " ++ a.message ++ ": " ++ a.reason ++ " (ErrorResponse \x7b status: " ++
      Text.quoted a.status ++ ", message: " ++ Text.quoted a.message ++ ", reason: " ++
      Text.quoted a.reason ++ ", code: " ++ toString a.code.toNat ++ " \x7d)"
  | .unnamed => invalidRequest "A non-empty name is required"
  | .fieldManagerOfCreate => invalidRequest "Failed to validate PostParams::field_manager!"
  | .fieldManagerOfPatch => invalidRequest "Failed to validate PatchParams::field_manager!"
  | .addressCharacter => unwritableRequest "invalid uri character"
  | .addressLength => unwritableRequest "uri too long"
  | .tlsRequired => "TLS required but no TLS stack selected"
  | .lineBreak => "Error finding newline character"
  | .readEvents message => "Error reading events stream: " ++ message
  | .service message => "ServiceError: " ++ message
  | .unreadable => "Error deserializing response"

/-- Requests that the cluster refuses for what they ask are not repeated; a conflict and too many
requests are no such reason. -/
def retryable : ApiFailure → Bool
  | .refused a => !(400 ≤ a.code && a.code < 500) || a.code == 409 || a.code == 429
  | _ => true

end ApiFailure

inductive Failure where
  | api (source : ApiFailure)
  /-- A write rests on an outdated reading, or somebody else made the object first. -/
  | conflict (key : ObjectKey) (message : String)
  /-- A handler was given an object of a kind that it does not manage. -/
  | kindMismatch (handler : String) (expected found : ObjectKind)
  | cancelled (operation : String)
  | missingNamespace (kind name : String)
  | collaborator (name message : String)
  deriving DecidableEq

/-- What the operator does with a build after a pass. -/
inductive Action where
  | awaitChange
  | requeue (seconds : Nat)
  deriving DecidableEq, Repr

def Action.text : Action → String
  | .awaitChange => "await_change"
  | .requeue seconds => "requeue " ++ toString seconds ++ "s"

namespace Failure

def message : Failure → String
  | .api source => "kubernetes error: " ++ source.message
  | .conflict key message => "conflict on " ++ key.text ++ ": " ++ message
  | .kindMismatch handler expected found =>
    "handler " ++ handler ++ " expected current state of kind " ++ expected.name ++ ", got " ++
      found.name
  | .cancelled operation => "operation cancelled: " ++ operation
  | .missingNamespace kind name => kind ++ " " ++ name ++ " has no namespace"
  | .collaborator name message => name ++ " failed: " ++ message

def retryable : Failure → Bool
  | .api source => source.retryable
  | .conflict .. => true
  | .collaborator .. => true
  | .kindMismatch .. => false
  | .cancelled .. => false
  | .missingNamespace .. => false

/-- Whether somebody has to look into the failure. -/
def isFault : Failure → Bool
  | .kindMismatch .. => true
  | .missingNamespace .. => true
  | _ => false

def isConflict : Failure → Bool
  | .conflict .. => true
  | _ => false

def isCancellation : Failure → Bool
  | .cancelled .. => true
  | _ => false

/-- The failure of a write to the object with that key. -/
def ofWrite (key : ObjectKey) : ApiFailure → Failure
  | .refused a => if a.code = 409 then .conflict key a.message else .api (.refused a)
  | source => .api source

/-- When the operator comes back to a build whose pass failed. -/
def policy (f : Failure) : Action :=
  if f.isConflict then .requeue 10
  else if f.isFault then .requeue 300
  else if f.retryable then .requeue 30
  else if f.isCancellation then .awaitChange
  else .requeue 300

end Failure
end BuildOperator
