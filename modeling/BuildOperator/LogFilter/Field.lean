import BuildOperator.Comparison
import BuildOperator.Decimal.Shortest
import BuildOperator.LogFilter.Level
import BuildOperator.LogFilter.Pattern
/-!
# Fields of log directives

A directive may ask for a field of a span, and for the value of that field. A value is a truth value
or a number if its text reads as one, and a pattern otherwise.
-/
namespace BuildOperator

inductive FieldValue where
  | bool (value : Bool)
  | decimal (value : Decimal)
  | infinity (negative : Bool)
  | notANumber
  | natural (value : Nat)
  /-- An integer with a minus sign. -/
  | signed (value : Int)
  | pattern (text : String)
  deriving DecidableEq, Repr

namespace FieldValue

/-- A sign, if there is one, and what follows it. -/
def splitSign : List Char → Bool × List Char
  | '-' :: cs => (true, cs)
  | '+' :: cs => (false, cs)
  | cs => (false, cs)

/-- The exponent that ends a decimal; none is zero. -/
def exponent? : List Char → Option Int
  | [] => some 0
  | c :: cs =>
    let (negative, digits) := splitSign cs
    if (c == 'e' || c == 'E') && digits.all Char.isDigit then
      (plainNumber? digits).map fun n => if negative then -n else n
    else none

/-- Decimals have digits before or after the point. One that is too large is infinite. Of two
shortest decimals that are equally near, the one further from zero is shown. -/
def decimal? (cs : List Char) : Option FieldValue := do
  let (negative, cs) := splitSign cs
  let (whole, cs) := (cs.takeWhile Char.isDigit, cs.dropWhile Char.isDigit)
  let (fraction, cs) := match cs with
    | '.' :: cs => (cs.takeWhile Char.isDigit, cs.dropWhile Char.isDigit)
    | cs => ([], cs)
  let digits ← plainNumber? (whole ++ fraction)
  let exponent ← exponent? cs
  match (Decimal.ofDigits negative digits (exponent - fraction.length)).rounded? .up with
  | some d => return .decimal d
  | none => return .infinity negative

/-- Numbers that have a name, in any case. -/
def named? (cs : List Char) : Option FieldValue :=
  let (negative, cs) := splitSign cs
  let name := String.ofList (cs.map Char.toLower)
  if name = "inf" ∨ name = "infinity" then some (.infinity negative)
  else if name = "nan" then some .notANumber
  else none

/-- An integer of 64 bits. -/
def integer? (cs : List Char) : Option FieldValue :=
  match cs with
  | '-' :: digits =>
    if digits.all Char.isDigit then
      ((plainNumber? digits).filter (· ≤ UInt64.size / 2)).map fun n => .signed (-n)
    else none
  | cs => ((plainNumber? cs).filter (· < UInt64.size)).map .natural

def read (cs : List Char) : Except PatternError FieldValue :=
  let text := String.ofList cs
  if text = "true" then .ok (.bool true)
  else if text = "false" then .ok (.bool false)
  else
    match (integer? cs).or ((named? cs).or (decimal? cs)) with
    | some value => .ok value
    | none => do
      Pattern.check cs
      return .pattern text

def text : FieldValue → String
  | .bool b => if b then "true" else "false"
  | .decimal d => d.signed d.positional
  | .infinity negative => if negative then "-inf" else "inf"
  | .notANumber => "NaN"
  | .natural n => toString n
  | .signed n => toString n
  | .pattern s => s

/-- The sorts of values in order. -/
def rank : FieldValue → Nat
  | .bool _ => 0
  | .decimal _ | .infinity _ => 1
  | .notANumber => 2
  | .natural _ => 3
  | .signed _ => 4
  | .pattern _ => 5

/-- A decimal as an integer, in units of the smaller one of two exponents. -/
def units (d : Decimal) (exponent : Int) : Int :=
  let n := d.digits * Nat.pow 10 (d.exponent - min d.exponent exponent).toNat
  if d.negative then -(n : Int) else n

/-- Compare values by their sorts, and values of one sort by what they are. -/
def order : FieldValue → FieldValue → Ordering
  | .bool a, .bool b => Comparison.bools a b
  | .decimal a, .decimal b => Comparison.ints (units a b.exponent) (units b a.exponent)
  | .decimal _, .infinity negative => if negative then .gt else .lt
  | .infinity negative, .decimal _ => if negative then .lt else .gt
  | .infinity a, .infinity b => Comparison.bools b a
  | .natural a, .natural b => Comparison.nats a b
  | .signed a, .signed b => Comparison.ints a b
  | .pattern a, .pattern b => Comparison.texts a b
  | a, b => Comparison.nats a.rank b.rank

end FieldValue

/-- A field that a directive asks for, and the value it has to have. -/
structure FieldMatch where
  name : String
  value : Option FieldValue
  deriving DecidableEq

namespace FieldMatch

/-- Read a name, or a name and a value; what follows a second equals sign is left out. -/
def read (cs : List Char) : Except PatternError FieldMatch := do
  let name := String.ofList (cs.takeWhile (· ≠ '='))
  match cs.dropWhile (· ≠ '=') with
  | [] => return ⟨name, none⟩
  | _ :: rest => return ⟨name, some (← FieldValue.read (rest.takeWhile (· ≠ '=')))⟩

def text (f : FieldMatch) : String :=
  match f.value with
  | none => f.name
  | some value => f.name ++ "=" ++ value.text

/-- A field with a value is more specific than one without. -/
def order (a b : FieldMatch) : Ordering :=
  (Comparison.bools a.value.isSome b.value.isSome).then
    ((Comparison.texts a.name b.name).then (Comparison.options FieldValue.order a.value b.value))

end FieldMatch
end BuildOperator
