import BuildOperator.Condition.Basic
import BuildOperator.Json.Decode
/-!
# Conditions in JSON
-/
namespace BuildOperator

namespace ConditionStatus

def ofJson : Decoder ConditionStatus := Decode.variant (all.map fun s => (s.name, s))

def toJson (s : ConditionStatus) : Json := .string s.name

end ConditionStatus

def Timestamp.toJson (t : Timestamp) : Json := .string t.text

namespace Condition

def toJson (c : Condition) : Json :=
  .record [
    Json.field "lastTransitionTime" c.lastTransitionTime.toJson,
    Json.field "message" (.string c.message),
    Json.field "observedGeneration" (.ofInt c.observedGeneration.toInt),
    Json.field "reason" (.string c.reason),
    Json.field "status" c.status.toJson,
    Json.field "type" (.string c.type)]

def shape : Decode.Shape := ⟨"Condition", 6⟩

def ofMembers (o : List (String × Json)) : Except DecodeError Condition := do
  let time ← Decode.present o "lastTransitionTime" Decode.time
  let message ← Decode.present o "message" Decode.string
  let generation ← Decode.present o "observedGeneration" Decode.int64
  let reason ← Decode.present o "reason" Decode.string
  let status ← Decode.present o "status" ConditionStatus.ofJson
  let type ← Decode.present o "type" Decode.string
  let type ← Decode.required "type" type
  let status ← Decode.required "status" status
  let reason ← Decode.required "reason" reason
  let message ← Decode.required "message" message
  let time ← Decode.required "lastTransitionTime" time
  return ⟨type, status, reason, message, generation.getD 0, time⟩

def ofItems (items : List Json) : Except DecodeError Condition := do
  let type ← Decode.item shape items 0 Decode.string
  let status ← Decode.item shape items 1 ConditionStatus.ofJson
  let reason ← Decode.item shape items 2 Decode.string
  let message ← Decode.item shape items 3 Decode.string
  let generation ← Decode.itemOr 0 items 4 Decode.int64
  let time ← Decode.item shape items 5 Decode.time
  return ⟨type, status, reason, message, generation, time⟩

def outline : Json.Outline :=
  .flat true ["type", "status", "reason", "message", "observedGeneration", "lastTransitionTime"]

def ofJson : Decoder Condition := Decode.struct shape ofMembers ofItems

end Condition
end BuildOperator
