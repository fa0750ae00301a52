import BuildOperator.Api.Request
import BuildOperator.Api.Response
/-!
# Client

How the operator's calls are made through the interface of the cluster: the request that is sent,
and what its response says about the call.
-/
namespace BuildOperator.Api

/-- What a body holds, by an outline of what is read and a decoder of that. -/
def readBody {α : Type} (outline : Json.Outline) (f : Decoder α) (body : String) :
    Except ApiFailure α :=
  match Json.excerptOfText? outline body with
  | none => .error .unreadable
  | some x => (f x.canonical).mapError fun _ => .unreadable

/-- The object of a kind that a body holds. -/
def readObject (kind : ObjectKind) (body : String) : Except ApiFailure ManagedObject :=
  readBody (ManagedObject.outline kind) (ManagedObject.ofJson kind) body

/-- A deletion is answered by the object or by a status. -/
def readDeleted (kind : ObjectKind) (body : String) : Except ApiFailure Unit := do
  let x ← readBody .whole .ok body
  if x.member "kind" = .string "Status" then return ()
  let _ ← readObject kind body

/-- What a response says about writing an object. -/
def written (object : ManagedObject) (response : Response) : Except Failure Unit :=
  match response.body.bind (readObject object.kind) with
  | .ok _ => .ok ()
  | .error source => .error (.ofWrite object.key source)

/-- What a response says about a call. An object that is not found is no failure of looking it up or
of deleting it, and a conflict is a failure of its own where an object is written. -/
def answerOf : (call : ClusterCall) → Response → Except Failure call.Answer
  | .get key, response =>
    match response.body.bind (readObject key.kind) with
    | .ok object => .ok (some object)
    | .error (.refused a) => if a.reason = "NotFound" then .ok none else .error (.api (.refused a))
    | .error source => .error (.api source)
  | .create object, response => written object response
  | .update object, response => written object response
  | .delete key, response =>
    match response.body.bind (readDeleted key.kind) with
    | .ok () => .ok ()
    | .error (.refused a) => if a.code = 404 then .ok () else .error (.api (.refused a))
    | .error source => .error (.api source)
  | .patchStatus .., response =>
    match response.body.bind (readBody Build.outline Build.ofJson) with
    | .ok _ => .ok ()
    | .error source => .error (.api source)

/-- Make a call: the requests that are sent and the result, when the cluster answers every request
with `response`. -/
def perform (fieldManager : String) (call : ClusterCall) (response : Response) :
    List Request × Except Failure call.Answer :=
  match requestOf fieldManager call with
  | .ok request => ([request], answerOf call response)
  | .error source => ([], .error (.api source))

/-- Deploy an artifact of a build in the same way. -/
def performDeploy (fieldManager : String) (build : Build) (artifact : String)
    (response : Response) : List Request × Except Failure Unit :=
  match build.deployment artifact with
  | .error failure => ([], .error failure)
  | .ok deployment =>
    match requestOfDeployment fieldManager deployment with
    | .error source => ([], .error (.api source))
    | .ok request =>
      ([request],
        match response.body.bind (readBody Deployment.outline Deployment.ofJson) with
        | .ok _ => .ok ()
        | .error source => .error (.api source))

end BuildOperator.Api
