/-!
# Outlines

Which parts of a JSON text a type reads. What an outline leaves out only has to be well formed.
-/
namespace BuildOperator.Json

inductive Outline where
  /-- The value with all that is in it. -/
  | whole
  /-- Every item of an array. -/
  | items (each : Outline)
  /-- The members of these names, or their values in an array in that order. Where they are unique,
  no name may be written twice. -/
  | record (unique : Bool) (members : List (String × Outline))

namespace Outline

/-- The whole values of members. -/
def wholes (names : List String) : List (String × Outline) := names.map fun name => (name, whole)

/-- A record of whole values. -/
def flat (unique : Bool) (names : List String) : Outline := record unique (wholes names)

end Outline

end BuildOperator.Json
