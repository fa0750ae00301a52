/-!
# Decimal numbers

A decimal number as a sign, its digits without trailing zeros, and the power of ten they are
multiplied by. A decimal has one such form.
-/
namespace BuildOperator

/-- The number `± digits · 10 ^ exponent`. -/
structure Decimal where
  negative : Bool
  digits : Nat
  exponent : Int
  deriving DecidableEq, Repr, Inhabited

namespace Decimal

/-- Drop at most `bound` trailing zeros of `digits` and raise the exponent by one for each. -/
def dropZeros : (bound : Nat) → (digits : Nat) → (exponent : Int) → Nat × Int
  | 0, digits, exponent => (digits, exponent)
  | bound + 1, digits, exponent =>
    if digits % 10 = 0 then dropZeros bound (digits / 10) (exponent + 1) else (digits, exponent)

/-- How many decimal digits `n` has; zero has none. -/
def digitCount (n : Nat) : Nat := if n = 0 then 0 else (Nat.toDigits 10 n).length

/-- The form without trailing zeros; zero has exponent zero. -/
def ofDigits (negative : Bool) (digits : Nat) (exponent : Int) : Decimal :=
  if digits = 0 then ⟨negative, 0, 0⟩
  else
    let (digits, exponent) := dropZeros (digitCount digits) digits exponent
    ⟨negative, digits, exponent⟩

def zeros (n : Int) : List Char := List.replicate n.toNat '0'

/-- How many places there are before the point; negative where zeros follow the point. -/
def places (d : Decimal) : Int := ((Nat.toDigits 10 d.digits).length : Int) + d.exponent

/-- All digits without the sign, and a point where there is a fraction. -/
def positional (d : Decimal) : List Char :=
  let digits := Nat.toDigits 10 d.digits
  if 0 ≤ d.exponent then digits ++ zeros d.exponent
  else if 0 < d.places then digits.take d.places.toNat ++ ['.'] ++ digits.drop d.places.toNat
  else ['0', '.'] ++ zeros (-d.places) ++ digits

/-- A text with the sign of a number. -/
def signed (d : Decimal) (shown : List Char) : String :=
  .ofList (if d.negative then '-' :: shown else shown)

/-- The same number, with zero not negative. -/
def comparable (d : Decimal) : Decimal := { d with negative := d.negative && d.digits ≠ 0 }

end Decimal
end BuildOperator
