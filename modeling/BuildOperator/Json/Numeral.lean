import BuildOperator.Decimal.Shortest
import BuildOperator.Json.Basic
/-!
# Numerals

A number as a JSON text writes it, and the value it stands for. Integers of at most 64 bits are
exact. Of any other number the digits count that make a significand of 64 bits; it is then scaled by
the power of ten that the rest of the numeral asks for, and every step of that is rounded.
-/
namespace BuildOperator.Json

/-- A sign, digits, a fraction and an exponent; `exponent` is zero where none is written. -/
structure Numeral where
  negative : Bool
  whole : List Char
  fraction : Option (List Char)
  exponent : Option Int
  deriving DecidableEq, Repr

def digitValue (c : Char) : Nat := c.toNat - '0'.toNat

def natOfDigits (cs : List Char) : Nat := cs.foldl (fun n c => 10 * n + digitValue c) 0

/-- Append digits to a significand while it has 64 bits: the significand, and how many digits are
left over. -/
def appendDigits : (significand : Nat) → List Char → Nat × Nat
  | significand, [] => (significand, 0)
  | significand, c :: cs =>
    let next := 10 * significand + digitValue c
    if next < UInt64.size then appendDigits next cs else (significand, cs.length + 1)

namespace Numeral

/-- Whether a fraction or an exponent is written. -/
def isPlain (n : Numeral) : Bool := n.fraction.isNone && n.exponent.isNone

/-- The significand and the power of ten it is scaled by. Digits that are left over count as zeros
before the point, and not at all after it. -/
def parts (n : Numeral) : Nat × Int :=
  let fraction := n.fraction.getD []
  let (whole, zeros) := appendDigits 0 n.whole
  let (significand, dropped) := appendDigits whole fraction
  (significand, (zeros : Int) - (fraction.length - dropped : Nat) + n.exponent.getD 0)

/-- The integers that are read as such: those of 64 bits, but not a negative zero. -/
def integer? (n : Numeral) : Option Int :=
  let value := natOfDigits n.whole
  if !n.isPlain then none
  else if n.negative then if 0 < value ∧ value ≤ UInt64.size / 2 then some (-value) else none
  else if value < UInt64.size then some value
  else none

/-- What the numeral stands for, unless that is too large. Of two shortest decimals that are equally
near, the even one is shown. -/
def value? (n : Numeral) : Option Number :=
  match n.integer? with
  | some i => some (.integer i)
  | none => do
    let (significand, exponent) := n.parts
    let b ← (← Binary.nearest? ⟨significand, 1⟩).scaleByTen? exponent
    return .decimal (.ofBinary n.negative b .toEven)

end Numeral
end BuildOperator.Json
