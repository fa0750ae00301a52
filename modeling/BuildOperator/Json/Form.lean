import BuildOperator.Json.Numeral
import BuildOperator.Text.Hexadecimal
/-!
# The form of a JSON text

What a JSON text writes, before it is asked for its value: numerals of any size, strings with their
escapes, and values nested at any depth.
-/
namespace BuildOperator.Json

/-- A character of a string, or one that is given by its number. -/
inductive Letter where
  | char (c : Char)
  | code (unit : Nat)
  deriving DecidableEq, Repr

inductive Form where
  | null
  | bool (value : Bool)
  | number (numeral : Numeral)
  | string (letters : List Letter)
  | array (items : List Form)
  | object (members : List (List Letter × Form))
  deriving Inhabited

def isSpace (c : Char) : Bool := c == ' ' || c == '\t' || c == '\n' || c == '\r'

def skipSpace (cs : List Char) : List Char := cs.dropWhile isSpace

/-- The number written by four hexadecimal digits, and what follows them. -/
def readHex4? : List Char → Option (Nat × List Char)
  | a :: b :: c :: d :: rest => do
    let a ← Text.hexDigit? a
    let b ← Text.hexDigit? b
    let c ← Text.hexDigit? c
    let d ← Text.hexDigit? d
    return (((a * 16 + b) * 16 + c) * 16 + d, rest)
  | _ => none

/-- The character that stands after a backslash for another one. -/
def escaped? : Char → Option Char
  | '"' => some '"'
  | '\\' => some '\\'
  | '/' => some '/'
  | 'b' => some '\x08'
  | 'f' => some '\x0c'
  | 'n' => some '\n'
  | 'r' => some '\r'
  | 't' => some '\t'
  | _ => none

/-- The rest of a string after its opening quote, and what follows the closing one. -/
def readLetters? : (fuel : Nat) → List Char → List Letter → Option (List Letter × List Char)
  | 0, _, _ => none
  | fuel + 1, cs, done =>
    match cs with
    | [] => none
    | '"' :: rest => some (done.reverse, rest)
    | '\\' :: 'u' :: rest => do
      let (unit, rest) ← readHex4? rest
      readLetters? fuel rest (.code unit :: done)
    | '\\' :: c :: rest => do
      let c ← escaped? c
      readLetters? fuel rest (.char c :: done)
    | c :: rest => if c.toNat < 0x20 then none else readLetters? fuel rest (.char c :: done)

/-- The digits at the start, if there are any, and what follows them. -/
def readDigits? (cs : List Char) : Option (List Char × List Char) :=
  match cs.takeWhile Char.isDigit with
  | [] => none
  | digits => some (digits, cs.dropWhile Char.isDigit)

/-- Digits before the point: a leading zero stands alone. -/
def readWhole? (cs : List Char) : Option (List Char × List Char) := do
  let (digits, rest) ← readDigits? cs
  if digits.head? = some '0' ∧ 1 < digits.length then none else return (digits, rest)

/-- Digits after a point, if there is one. -/
def readFraction? : List Char → Option (Option (List Char) × List Char)
  | '.' :: cs => do
    let (digits, rest) ← readDigits? cs
    return (some digits, rest)
  | cs => some (none, cs)

/-- Whether a minus comes first, and what follows it. -/
def readMinus : List Char → Bool × List Char
  | '-' :: rest => (true, rest)
  | rest => (false, rest)

/-- A sign that may also be a plus, and what follows it. -/
def readSign : List Char → Bool × List Char
  | '+' :: rest => (false, rest)
  | rest => readMinus rest

/-- The exponent, if there is one. -/
def readExponent? (cs : List Char) : Option (Option Int × List Char) :=
  match cs with
  | c :: cs' =>
    if c == 'e' || c == 'E' then do
      let (negative, cs'') := readSign cs'
      let (digits, rest) ← readDigits? cs''
      let n : Int := natOfDigits digits
      return (some (if negative then -n else n), rest)
    else some (none, cs)
  | [] => some (none, [])

def readNumeral? (cs : List Char) : Option (Numeral × List Char) := do
  let (negative, cs) := readMinus cs
  let (whole, rest) ← readWhole? cs
  let (fraction, rest) ← readFraction? rest
  let (exponent, rest) ← readExponent? rest
  return (⟨negative, whole, fraction, exponent⟩, rest)

/-- What follows `word` at the start. -/
def readWord? (word : List Char) (cs : List Char) : Option (List Char) :=
  if word.isPrefixOf cs then some (cs.drop word.length) else none

mutual
/-- The form of the value at the start, and what follows it. -/
def readForm? : (fuel : Nat) → List Char → Option (Form × List Char)
  | 0, _ => none
  | fuel + 1, cs =>
    match skipSpace cs with
    | '"' :: rest => do
      let (letters, rest) ← readLetters? (rest.length + 1) rest []
      return (.string letters, rest)
    | '[' :: rest =>
      match skipSpace rest with
      | ']' :: rest => some (.array [], rest)
      | rest => do
        let (items, rest) ← readItems? fuel rest
        return (.array items, rest)
    | '\x7b' :: rest =>
      match skipSpace rest with
      | '\x7d' :: rest => some (.object [], rest)
      | rest => do
        let (members, rest) ← readMembers? fuel rest
        return (.object members, rest)
    | 'n' :: rest => do return (.null, ← readWord? ['u', 'l', 'l'] rest)
    | 't' :: rest => do return (.bool true, ← readWord? ['r', 'u', 'e'] rest)
    | 'f' :: rest => do return (.bool false, ← readWord? ['a', 'l', 's', 'e'] rest)
    | cs => do
      let (n, rest) ← readNumeral? cs
      return (.number n, rest)

/-- The items of an array up to its closing bracket. -/
def readItems? : (fuel : Nat) → List Char → Option (List Form × List Char)
  | 0, _ => none
  | fuel + 1, cs => do
    let (x, rest) ← readForm? fuel cs
    match skipSpace rest with
    | ',' :: rest =>
      let (xs, rest) ← readItems? fuel rest
      return (x :: xs, rest)
    | ']' :: rest => return ([x], rest)
    | _ => none

/-- The members of an object up to its closing brace. -/
def readMembers? : (fuel : Nat) → List Char → Option (List (List Letter × Form) × List Char)
  | 0, _ => none
  | fuel + 1, cs =>
    match skipSpace cs with
    | '"' :: rest => do
      let (name, rest) ← readLetters? (rest.length + 1) rest []
      match skipSpace rest with
      | ':' :: rest =>
        let (x, rest) ← readForm? fuel rest
        match skipSpace rest with
        | ',' :: rest =>
          let (xs, rest) ← readMembers? fuel rest
          return ((name, x) :: xs, rest)
        | '\x7d' :: rest => return ([(name, x)], rest)
        | _ => none
      | _ => none
    | _ => none
end

/-- The form of a text. -/
def Form.ofText? (s : String) : Option Form := do
  let cs := s.toList
  let (x, rest) ← readForm? (cs.length + 1) cs
  if (skipSpace rest).isEmpty then return x else none

end BuildOperator.Json
