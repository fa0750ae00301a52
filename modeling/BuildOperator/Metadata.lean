import BuildOperator.Json.Decode
/-!
# Object metadata

What every object of the cluster carries beside its own content. Objects may have metadata of any
type that can be written and read. `Metadata` has what the operator makes use of; there `space` is
the namespace that an object lives in.
-/
namespace BuildOperator

/-- How a type of metadata is written, what of a text is read of it, and how. -/
class MetadataFormat (μ : Type) where
  toJson : μ → Json
  outline : Json.Outline
  ofJson : Decoder μ

structure Metadata where
  name : Option String := none
  generateName : Option String := none
  space : Option String := none
  uid : Option String := none
  resourceVersion : Option String := none
  generation : Option Int64 := none
  labels : Option (Dictionary String) := none
  annotations : Option (Dictionary String) := none
  finalizers : Option (List String) := none
  deriving DecidableEq, Inhabited

namespace Metadata

/-- The name, or the stem from which the cluster makes one. -/
def displayName (m : Metadata) : String := (m.name.or m.generateName).getD ""

def toJson (m : Metadata) : Json :=
  .record [
    Json.field? "annotations" (.ofDictionary .string) m.annotations,
    Json.field? "finalizers" .strings m.finalizers,
    Json.field? "generateName" .string m.generateName,
    Json.field? "generation" (fun n => .ofInt n.toInt) m.generation,
    Json.field? "labels" (.ofDictionary .string) m.labels,
    Json.field? "name" .string m.name,
    Json.field? "namespace" .string m.space,
    Json.field? "resourceVersion" .string m.resourceVersion,
    Json.field? "uid" .string m.uid]

def ofMembers (o : List (String × Json)) : Except DecodeError Metadata := do
  let annotations ← Decode.nullable o "annotations" (Decode.dictionary Decode.string)
  let finalizers ← Decode.nullable o "finalizers" Decode.strings
  let generateName ← Decode.nullable o "generateName" Decode.string
  let generation ← Decode.nullable o "generation" Decode.int64
  let labels ← Decode.nullable o "labels" (Decode.dictionary Decode.string)
  let name ← Decode.nullable o "name" Decode.string
  let space ← Decode.nullable o "namespace" Decode.string
  let resourceVersion ← Decode.nullable o "resourceVersion" Decode.string
  let uid ← Decode.nullable o "uid" Decode.string
  return {
    name, generateName, space, uid, resourceVersion, generation, labels, annotations,
    finalizers }

/-- What is read of metadata. -/
def outline : Json.Outline :=
  .flat false ["name", "generateName", "namespace", "uid", "resourceVersion", "generation",
    "labels", "annotations", "finalizers"]

def ofJson : Decoder Metadata := Decode.object "ObjectMeta" ofMembers

@[default_instance]
instance : MetadataFormat Metadata := ⟨toJson, outline, ofJson⟩

end Metadata
end BuildOperator
