/-!
# Log levels
-/
namespace BuildOperator

inductive LogLevel where
  | off
  | error
  | warn
  | info
  | debug
  | trace
  deriving DecidableEq, Repr

/-- The number that digits write, perhaps after a plus sign. -/
def plainNumber? (cs : List Char) : Option Nat :=
  let digits := match cs with
    | '+' :: rest => rest
    | cs => cs
  if digits.isEmpty || !digits.all Char.isDigit then none
  else some (digits.foldl (fun n c => 10 * n + (c.toNat - '0'.toNat)) 0)

namespace LogLevel

/-- The levels in order; the place of a level is its number. -/
def all : List LogLevel := [.off, .error, .warn, .info, .debug, .trace]

def name : LogLevel → String
  | .off => "off"
  | .error => "error"
  | .warn => "warn"
  | .info => "info"
  | .debug => "debug"
  | .trace => "trace"

/-- A level by its number, or by its name in any case. -/
def read? (cs : List Char) : Option LogLevel :=
  match (plainNumber? cs).bind (all[·]?) with
  | some level => some level
  | none => all.find? fun level => level.name.toList = cs.map Char.toLower

end LogLevel
end BuildOperator
