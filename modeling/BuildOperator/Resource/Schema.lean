import BuildOperator.Json.Basic
/-!
# Schemas

What the fields of a resource look like, as the cluster is told so that it can check objects and
fill in defaults.
-/
namespace BuildOperator

inductive Schema where
  | string
  | dateTime
  | oneOf (names : List String)
  | boolean
  | int32
  | int64
  | array (items : Schema)
  | object (required : List String) (properties : List (String × Schema))
  | described (description : String) (schema : Schema)
  | nullable (schema : Schema)
  | orElse (value : Json) (schema : Schema)
  deriving Inhabited

namespace Schema

def typeMember (name : String) : String × Json := ("type", .string name)

def formatMember (name : String) : String × Json := ("format", .string name)

mutual
def members : Schema → List (String × Json)
  | .string => [typeMember "string"]
  | .dateTime => [formatMember "date-time", typeMember "string"]
  | .oneOf names => [("enum", .strings names), typeMember "string"]
  | .boolean => [typeMember "boolean"]
  | .int32 => [formatMember "int32", typeMember "integer"]
  | .int64 => [formatMember "int64", typeMember "integer"]
  | .array items => [("items", .object (members items)), typeMember "array"]
  | .object required properties =>
    ("properties", .object (propertyMembers properties)) :: typeMember "object" ::
      if required.isEmpty then [] else [("required", .strings required)]
  | .described description schema => ("description", .string description) :: members schema
  | .nullable schema => ("nullable", .bool true) :: members schema
  | .orElse value schema => ("default", value) :: members schema

def propertyMembers : List (String × Schema) → List (String × Json)
  | [] => []
  | (name, schema) :: rest => (name, .object (members schema)) :: propertyMembers rest
end

end Schema
end BuildOperator
