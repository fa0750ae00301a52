import BuildOperator.Decimal.Basic
/-!
# Numbers of 53 binary digits

The nearest such number to a fraction, and products and quotients that are rounded to it. Everything
is computed in exact arithmetic on naturals.
-/
namespace BuildOperator

/-- Where a half is rounded to. -/
inductive Tie where
  | toEven
  | up
  deriving DecidableEq, Repr

/-- A fraction of naturals. -/
structure Fraction where
  num : Nat
  den : Nat

namespace Fraction

/-- Multiply by `base ^ exponent`. -/
def scale (x : Fraction) (base : Nat) (exponent : Int) : Fraction :=
  if exponent < 0 then ⟨x.num, x.den * base.pow (-exponent).toNat⟩
  else ⟨x.num * base.pow exponent.toNat, x.den⟩

def mul (x y : Fraction) : Fraction := ⟨x.num * y.num, x.den * y.den⟩

def div (x y : Fraction) : Fraction := ⟨x.num * y.den, x.den * y.num⟩

def floor (x : Fraction) : Nat := x.num / x.den

def le (x y : Fraction) : Bool := x.num * y.den ≤ y.num * x.den

def lt (x y : Fraction) : Bool := x.num * y.den < y.num * x.den

/-- The nearest natural. -/
def round (x : Fraction) (tie : Tie) : Nat :=
  let below := x.num / x.den
  let twice := 2 * (x.num % x.den)
  if twice < x.den then below
  else if x.den < twice then below + 1
  else match tie with
    | .toEven => below + below % 2
    | .up => below + 1

/-- The place of the first digit before the point, counted so that `1 ≤ x < 10` has place one. -/
def decimalPlace (x : Fraction) : Int :=
  if x.den ≤ x.num then Decimal.digitCount (x.num / x.den)
  else 1 - (Decimal.digitCount ((x.den + x.num - 1) / x.num - 1) : Int)

end Fraction

/-- The number `significand · 2 ^ exponent`, with a significand below `2 ^ 53`. -/
structure Binary where
  significand : Nat
  exponent : Int
  deriving DecidableEq, Repr

namespace Binary

/-- The least number that is too large for a significand. -/
def bound : Nat := Nat.pow 2 53

def zero : Binary := ⟨0, 0⟩

/-- The nearest number of 53 binary digits, unless `x` is too large for one; of two that are equally
near, the one with an even significand. -/
def nearest? (x : Fraction) : Option Binary :=
  if x.num = 0 then some zero
  else
    let q := max (((x.num.log2 : Int) - x.den.log2) - 53) (-1074)
    let q := if bound ≤ (x.scale 2 (-q)).floor then q + 1 else q
    let m := (x.scale 2 (-q)).round .toEven
    let (m, q) := if m = bound then (bound / 2, q + 1) else (m, q)
    if 971 < q then none else some ⟨m, q⟩

def toFraction (b : Binary) : Fraction := (⟨b.significand, 1⟩ : Fraction).scale 2 b.exponent

/-- The rounded product. -/
def mul? (a b : Binary) : Option Binary := nearest? (a.toFraction.mul b.toFraction)

/-- The rounded quotient; `b` is not zero. -/
def div? (a b : Binary) : Option Binary := nearest? (a.toFraction.div b.toFraction)

/-- The rounded power of ten. -/
def powerOfTen? (n : Nat) : Option Binary := nearest? ⟨Nat.pow 10 n, 1⟩

/-- The largest exponent whose power of ten is not too large. -/
def maxPower : Nat := 308

/-- Multiply by `10 ^ exponent`, rounding the power as well as the product. A negative power
divides; one below `10 ^ (-308)` divides twice, and what is divided by more than `10 ^ 616` is zero.
-/
def scaleByTen? (b : Binary) (exponent : Int) : Option Binary :=
  let n := exponent.natAbs
  if b.significand = 0 then some zero
  else if 0 ≤ exponent then
    if n ≤ maxPower then do b.mul? (← powerOfTen? n) else none
  else if n ≤ maxPower then do b.div? (← powerOfTen? n)
  else if n ≤ 2 * maxPower then do
    let b ← b.div? (← powerOfTen? maxPower)
    b.div? (← powerOfTen? (n - maxPower))
  else some zero

end Binary
end BuildOperator
