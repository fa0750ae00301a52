import BuildOperator.Decimal.Binary
/-!
# Shortest decimals

The decimal with the fewest digits that is nearest to a number of 53 binary digits and to no other.
Where two of them are equally near to that number, it is for the format to choose.
-/
namespace BuildOperator

namespace Binary

/-- Whether `x` lies between the midpoints to the two neighbours of `b`. -/
def reads (b : Binary) (x : Fraction) : Bool :=
  let closer := b.significand = bound / 2 ∧ -1074 < b.exponent
  let low := (⟨4 * b.significand - (if closer then 1 else 2), 4⟩ : Fraction).scale 2 b.exponent
  let high := (⟨4 * b.significand + 2, 4⟩ : Fraction).scale 2 b.exponent
  if b.significand % 2 = 0 then low.le x && x.le high else low.lt x && x.lt high

/-- The decimal of `count` digits nearest to `b` that is read back as `b`. -/
def withDigits? (b : Binary) (tie : Tie) (count : Nat) : Option (Nat × Int) :=
  let x := b.toFraction
  let exponent := x.decimalPlace - count
  let scaled := x.scale 10 (-exponent)
  let below := scaled.floor
  let value (n : Nat) : Fraction := (⟨n, 1⟩ : Fraction).scale 10 exponent
  match b.reads (value below), b.reads (value (below + 1)) with
  | false, false => none
  | true, false => some (below, exponent)
  | false, true => some (below + 1, exponent)
  | true, true => some (scaled.round tie, exponent)

/-- The fewest digits that are read back as `b`; seventeen always are. -/
def shortest (b : Binary) (tie : Tie) : Nat × Int :=
  if b.significand = 0 then (0, 0)
  else ((List.range 17).findSome? fun n => b.withDigits? tie (n + 1)).getD (0, 0)

end Binary

namespace Decimal

/-- The shortest decimal of a number with that sign. -/
def ofBinary (negative : Bool) (b : Binary) (tie : Tie) : Decimal :=
  let (digits, exponent) := b.shortest tie
  ofDigits negative digits exponent

/-- The shortest decimal that is nearest to the same number of 53 binary digits as `d`, unless `d`
is too large. -/
def rounded? (d : Decimal) (tie : Tie) : Option Decimal :=
  let place := (digitCount d.digits : Int) + d.exponent
  if d.digits = 0 ∨ place < -330 then some ⟨d.negative, 0, 0⟩
  else if 310 < place then none
  else
    (Binary.nearest? ((⟨d.digits, 1⟩ : Fraction).scale 10 d.exponent)).map
      (ofBinary d.negative · tie)

end Decimal
end BuildOperator
