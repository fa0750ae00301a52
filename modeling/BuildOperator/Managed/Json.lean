import BuildOperator.Managed.Object
/-!
# Managed objects in JSON

Null stands for no value everywhere. The version and the kind are always written, and checked
where they are read.
-/
namespace BuildOperator

namespace ObjectReference

def toJson (r : ObjectReference) : Json :=
  .record [
    Json.field? "apiVersion" .string r.apiVersion,
    Json.field? "fieldPath" .string r.fieldPath,
    Json.field? "kind" .string r.kind,
    Json.field? "name" .string r.name,
    Json.field? "namespace" .string r.space,
    Json.field? "resourceVersion" .string r.resourceVersion,
    Json.field? "uid" .string r.uid]

def ofMembers (o : List (String × Json)) : Except DecodeError ObjectReference := do
  let apiVersion ← Decode.nullable o "apiVersion" Decode.string
  let fieldPath ← Decode.nullable o "fieldPath" Decode.string
  let kind ← Decode.nullable o "kind" Decode.string
  let name ← Decode.nullable o "name" Decode.string
  let space ← Decode.nullable o "namespace" Decode.string
  let resourceVersion ← Decode.nullable o "resourceVersion" Decode.string
  let uid ← Decode.nullable o "uid" Decode.string
  return { apiVersion, fieldPath, kind, name, space, resourceVersion, uid }

def outline : Json.Outline :=
  .flat false ["apiVersion", "fieldPath", "kind", "name", "namespace", "resourceVersion", "uid"]

def ofJson : Decoder ObjectReference := Decode.object "ObjectReference" ofMembers

end ObjectReference

/-- A reference to a secret of the same namespace, by its name. -/
def secretNameToJson (name : String) : Json := .record [Json.field "name" (.string name)]

def secretNameOfMembers (o : List (String × Json)) : Except DecodeError String :=
  (·.getD "") <$> Decode.nullable o "name" Decode.string

def secretNameOutline : Json.Outline := .flat false ["name"]

def secretNameOfJson : Decoder String := Decode.object "LocalObjectReference" secretNameOfMembers

namespace PolicyRule

def toJson (r : PolicyRule) : Json :=
  .record [
    Json.field? "apiGroups" .strings r.apiGroups,
    Json.field? "nonResourceURLs" .strings r.nonResourceURLs,
    Json.field? "resourceNames" .strings r.resourceNames,
    Json.field? "resources" .strings r.resources,
    Json.field "verbs" (.strings r.verbs)]

def ofMembers (o : List (String × Json)) : Except DecodeError PolicyRule := do
  let apiGroups ← Decode.nullable o "apiGroups" Decode.strings
  let nonResourceURLs ← Decode.nullable o "nonResourceURLs" Decode.strings
  let resourceNames ← Decode.nullable o "resourceNames" Decode.strings
  let resources ← Decode.nullable o "resources" Decode.strings
  let verbs ← Decode.nullable o "verbs" Decode.strings
  return ⟨apiGroups, nonResourceURLs, resourceNames, resources, verbs.getD []⟩

def outline : Json.Outline :=
  .flat false ["apiGroups", "nonResourceURLs", "resourceNames", "resources", "verbs"]

def ofJson : Decoder PolicyRule := Decode.object "PolicyRule" ofMembers

end PolicyRule

namespace Subject

def toJson (s : Subject) : Json :=
  .record [
    Json.field? "apiGroup" .string s.apiGroup,
    Json.field "kind" (.string s.kind),
    Json.field "name" (.string s.name),
    Json.field? "namespace" .string s.space]

def ofMembers (o : List (String × Json)) : Except DecodeError Subject := do
  let apiGroup ← Decode.nullable o "apiGroup" Decode.string
  let kind ← Decode.nullable o "kind" Decode.string
  let name ← Decode.nullable o "name" Decode.string
  let space ← Decode.nullable o "namespace" Decode.string
  return ⟨apiGroup, kind.getD "", name.getD "", space⟩

def outline : Json.Outline := .flat false ["apiGroup", "kind", "name", "namespace"]

def ofJson : Decoder Subject := Decode.object "Subject" ofMembers

end Subject

namespace RoleRef

def toJson (r : RoleRef) : Json :=
  .record [
    Json.field "apiGroup" (.string r.apiGroup),
    Json.field "kind" (.string r.kind),
    Json.field "name" (.string r.name)]

def ofMembers (o : List (String × Json)) : Except DecodeError RoleRef := do
  let apiGroup ← Decode.nullable o "apiGroup" Decode.string
  let kind ← Decode.nullable o "kind" Decode.string
  let name ← Decode.nullable o "name" Decode.string
  return ⟨apiGroup.getD "", kind.getD "", name.getD ""⟩

def outline : Json.Outline := .flat false ["apiGroup", "kind", "name"]

def ofJson : Decoder RoleRef := Decode.object "RoleRef" ofMembers

end RoleRef

/-- The members that name the type of an object. -/
def ObjectKind.field (kind : ObjectKind) : Option (String × Json) :=
  Json.field "kind" (.string kind.name)

def ObjectKind.versionField (kind : ObjectKind) : Option (String × Json) :=
  Json.field "apiVersion" (.string kind.apiVersion)

/-- Check the version that an object names, if it names one. -/
def ObjectKind.checkVersion (kind : ObjectKind) (o : List (String × Json)) :
    Except DecodeError Unit :=
  Decode.constant o "apiVersion" kind.apiVersion

/-- Check the kind that an object names, if it names one. -/
def ObjectKind.checkName (kind : ObjectKind) (o : List (String × Json)) : Except DecodeError Unit :=
  Decode.constant o "kind" kind.name

/-- What is read of an object of any kind beside its own content. -/
def ObjectKind.outline (content : List (String × Json.Outline)) : Json.Outline :=
  .record false
    ([("apiVersion", .whole), ("kind", .whole), ("metadata", Metadata.outline)] ++ content)

namespace ServiceAccount

def toJson (a : ServiceAccount) : Json :=
  .record [
    ObjectKind.serviceAccount.versionField,
    Json.field? "automountServiceAccountToken" .bool a.automountToken,
    Json.field? "imagePullSecrets" (fun xs => .array (xs.map secretNameToJson)) a.imagePullSecrets,
    ObjectKind.serviceAccount.field,
    Json.field "metadata" a.metadata.toJson,
    Json.field? "secrets" (fun xs => .array (xs.map ObjectReference.toJson)) a.secrets]

def ofMembers (o : List (String × Json)) : Except DecodeError ServiceAccount := do
  ObjectKind.serviceAccount.checkVersion o
  let automountToken ← Decode.nullable o "automountServiceAccountToken" Decode.bool
  let imagePullSecrets ← Decode.nullable o "imagePullSecrets" (Decode.list secretNameOfJson)
  ObjectKind.serviceAccount.checkName o
  let metadata ← Decode.nullable o "metadata" Metadata.ofJson
  let secrets ← Decode.nullable o "secrets" (Decode.list ObjectReference.ofJson)
  return ⟨metadata.getD {}, automountToken, imagePullSecrets, secrets⟩

def outline : Json.Outline :=
  ObjectKind.outline [
    ("automountServiceAccountToken", .whole),
    ("imagePullSecrets", .items secretNameOutline),
    ("secrets", .items ObjectReference.outline)]

def ofJson : Decoder ServiceAccount := Decode.object ObjectKind.serviceAccount.name ofMembers

end ServiceAccount

namespace Role

def toJson (r : Role) : Json :=
  .record [
    ObjectKind.role.versionField,
    ObjectKind.role.field,
    Json.field "metadata" r.metadata.toJson,
    Json.field? "rules" (fun xs => .array (xs.map PolicyRule.toJson)) r.rules]

def ofMembers (o : List (String × Json)) : Except DecodeError Role := do
  ObjectKind.role.checkVersion o
  ObjectKind.role.checkName o
  let metadata ← Decode.nullable o "metadata" Metadata.ofJson
  let rules ← Decode.nullable o "rules" (Decode.list PolicyRule.ofJson)
  return ⟨metadata.getD {}, rules⟩

def outline : Json.Outline := ObjectKind.outline [("rules", .items PolicyRule.outline)]

def ofJson : Decoder Role := Decode.object ObjectKind.role.name ofMembers

end Role

namespace RoleBinding

def toJson (b : RoleBinding) : Json :=
  .record [
    ObjectKind.roleBinding.versionField,
    ObjectKind.roleBinding.field,
    Json.field "metadata" b.metadata.toJson,
    Json.field "roleRef" b.roleRef.toJson,
    Json.field? "subjects" (fun xs => .array (xs.map Subject.toJson)) b.subjects]

def ofMembers (o : List (String × Json)) : Except DecodeError RoleBinding := do
  ObjectKind.roleBinding.checkVersion o
  ObjectKind.roleBinding.checkName o
  let metadata ← Decode.nullable o "metadata" Metadata.ofJson
  let roleRef ← Decode.nullable o "roleRef" RoleRef.ofJson
  let subjects ← Decode.nullable o "subjects" (Decode.list Subject.ofJson)
  return ⟨metadata.getD {}, roleRef.getD {}, subjects⟩

def outline : Json.Outline :=
  ObjectKind.outline [("roleRef", RoleRef.outline), ("subjects", .items Subject.outline)]

def ofJson : Decoder RoleBinding := Decode.object ObjectKind.roleBinding.name ofMembers

end RoleBinding

namespace ManagedObject

def toJson : ManagedObject → Json
  | .serviceAccount o => o.toJson
  | .role o => o.toJson
  | .roleBinding o => o.toJson

/-- What is read of an object of that kind. -/
def outline : ObjectKind → Json.Outline
  | .serviceAccount => ServiceAccount.outline
  | .role => Role.outline
  | .roleBinding => RoleBinding.outline

/-- Read an object that is expected to be of that kind. -/
def ofJson (kind : ObjectKind) : Decoder ManagedObject := fun x =>
  match kind with
  | .serviceAccount => .serviceAccount <$> ServiceAccount.ofJson x
  | .role => .role <$> Role.ofJson x
  | .roleBinding => .roleBinding <$> RoleBinding.ofJson x

end ManagedObject
end BuildOperator
