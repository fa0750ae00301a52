import BuildOperator.Api.Address
import BuildOperator.Build.Json
import BuildOperator.Cluster.Call
import BuildOperator.Managed.Json
/-!
# Requests

The requests by which the operator's calls reach the interface of the cluster. A request is checked
before it is sent.
-/
namespace BuildOperator.Api

inductive Method where
  | get
  | post
  | put
  | delete
  | patch
  deriving DecidableEq, Repr

def Method.name : Method → String
  | .get => "GET"
  | .post => "POST"
  | .put => "PUT"
  | .delete => "DELETE"
  | .patch => "PATCH"

structure Request where
  method : Method
  uri : String
  contentType : Option String := none
  accept : Option String := none
  body : Option Json := none
  deriving DecidableEq

def hexDigit (n : Nat) : Char := (Nat.digitChar n).toUpper

/-- A byte of a form value: letters, digits and four marks stand as they are, a space is a plus
sign, everything else is given by its two hexadecimal digits. -/
def formByte (b : UInt8) : List Char :=
  let c := Char.ofNat b.toNat
  if c.isAlphanum || c == '*' || c == '-' || c == '.' || c == '_' then [c]
  else if c == ' ' then ['+']
  else ['%', hexDigit (b.toNat / 16), hexDigit (b.toNat % 16)]

def formValue (s : String) : String := .ofList (s.toUTF8.toList.flatMap formByte)

/-- The objects of one sort in a namespace. -/
def path (group plural space : String) : String := group ++ "/namespaces/" ++ space ++ "/" ++ plural

def kindPath (kind : ObjectKind) (space : String) : String :=
  match kind with
  | .serviceAccount => path "/api/v1" "serviceaccounts" space
  | .role => path "/apis/rbac.authorization.k8s.io/v1" "roles" space
  | .roleBinding => path "/apis/rbac.authorization.k8s.io/v1" "rolebindings" space

/-- The objects of one sort among those that the operator brought to the cluster. -/
def ownPath (plural space : String) : String := path ("/apis/" ++ apiVersion) plural space

def managedBy (fieldManager : String) : String := "&fieldManager=" ++ formValue fieldManager

def jsonContent : String := "application/json"

/-- The most bytes that the name of a field manager may have. -/
def maxFieldManager : Nat := 128

def checkName (name : String) : Except ApiFailure Unit :=
  if name = "" then .error .unnamed else .ok ()

def checkFieldManager (failure : ApiFailure) (fieldManager : String) : Except ApiFailure Unit :=
  if maxFieldManager < fieldManager.utf8ByteSize then .error failure else .ok ()

/-- The request of a call, written as `fieldManager`. -/
def requestOf (fieldManager : String) : ClusterCall → Except ApiFailure Request
  | .get key => do
    checkName key.name
    return {
      method := .get
      uri := ← Address.read (kindPath key.kind key.space ++ "/" ++ key.name) }
  | .create object => do
    checkFieldManager .fieldManagerOfCreate fieldManager
    return {
      method := .post
      uri := ← Address.read
        (kindPath object.kind object.key.space ++ "?" ++ managedBy fieldManager)
      contentType := some jsonContent
      body := some object.toJson }
  | .update object => do
    checkName object.key.name
    return {
      method := .put
      uri := ← Address.read
        (kindPath object.kind object.key.space ++ "/" ++ object.key.name ++ "?" ++
          managedBy fieldManager)
      contentType := some jsonContent
      body := some object.toJson }
  | .delete key => do
    checkName key.name
    return {
      method := .delete
      uri := ← Address.read (kindPath key.kind key.space ++ "/" ++ key.name ++ "?")
      contentType := some jsonContent
      body := some (.object []) }
  | .patchStatus space name status => do
    checkName name
    checkFieldManager .fieldManagerOfPatch fieldManager
    return {
      method := .patch
      uri := ← Address.read
        (ownPath "builds" space ++ "/" ++ name ++ "/status?" ++ managedBy fieldManager)
      contentType := some "application/merge-patch+json"
      accept := some jsonContent
      body := some (.object [("status", status.toJson)]) }

/-- The request that applies a deployment, taking over fields from other managers. -/
def requestOfDeployment (fieldManager : String) (d : Deployment) : Except ApiFailure Request := do
  let name := d.metadata.displayName
  checkName name
  checkFieldManager .fieldManagerOfPatch fieldManager
  return {
    method := .patch
    uri := ← Address.read
      (ownPath "deployments" (d.metadata.space.getD "") ++ "/" ++ name ++ "?&force=true" ++
        managedBy fieldManager)
    contentType := some "application/apply-patch+yaml"
    accept := some jsonContent
    body := some d.toJson }

end BuildOperator.Api
