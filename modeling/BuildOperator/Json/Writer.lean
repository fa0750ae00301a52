import BuildOperator.Json.Basic
/-!
# JSON text

The text of a value without blanks. A decimal is written positionally while its point falls within
sixteen digits, with an exponent otherwise, and never without a point or an exponent.
-/
namespace BuildOperator

namespace Decimal

/-- The largest count of digits before the point that are written positionally. -/
def maxPlaces : Int := 16

/-- The smallest place of the first digit that is written positionally. -/
def minPlaces : Int := -5

/-- One digit before the point, and the power of ten that goes with it. -/
def scientific (d : Decimal) : List Char :=
  let digits := Nat.toDigits 10 d.digits
  let fraction := digits.drop 1
  digits.take 1 ++ (if fraction.isEmpty then [] else '.' :: fraction) ++
    ['e', if d.places ≤ 0 then '-' else '+'] ++ Nat.toDigits 10 (d.places - 1).natAbs

def text (d : Decimal) : String :=
  d.signed
    (if minPlaces < d.places ∧ d.places ≤ maxPlaces then
      d.positional ++ (if 0 ≤ d.exponent then ['.', '0'] else [])
    else d.scientific)

end Decimal

def Number.text : Number → String
  | .integer n => toString n
  | .decimal d => d.text

namespace Json

/-- Four hexadecimal digits. -/
def hex4 (n : Nat) : List Char :=
  let digits := Nat.toDigits 16 n
  List.replicate (4 - digits.length) '0' ++ digits

def escape (c : Char) : List Char :=
  match c with
  | '"' => ['\\', '"']
  | '\\' => ['\\', '\\']
  | '\x08' => ['\\', 'b']
  | '\x0c' => ['\\', 'f']
  | '\n' => ['\\', 'n']
  | '\r' => ['\\', 'r']
  | '\t' => ['\\', 't']
  | c => if c.toNat < 0x20 then ['\\', 'u'] ++ hex4 c.toNat else [c]

def textOfString (s : String) : String := .ofList ('"' :: s.toList.flatMap escape ++ ['"'])

mutual
def text : Json → String
  | .null => "null"
  | .bool true => "true"
  | .bool false => "false"
  | .number n => n.text
  | .string s => textOfString s
  | .array items => "[" ++ ",".intercalate (textOfItems items) ++ "]"
  | .object members => "\x7b" ++ ",".intercalate (textOfMembers members) ++ "\x7d"

def textOfItems : List Json → List String
  | [] => []
  | x :: xs => text x :: textOfItems xs

def textOfMembers : List (String × Json) → List String
  | [] => []
  | (k, x) :: xs => (textOfString k ++ ":" ++ text x) :: textOfMembers xs
end

end Json
end BuildOperator
