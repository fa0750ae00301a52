import BuildOperator.Text.Blank
import BuildOperator.Timestamp.Basic
/-!
# Text of timestamps

Timestamps are written `YYYY-MM-DDTHH:MM:SS`, a fraction of 3, 6 or 9 digits where the second has
one, and `Z`. Reading also accepts shorter numbers, blanks, a blank in place of the `T`, and times
with an offset.
-/
namespace BuildOperator.Timestamp
open Text

/-- Why a text is no timestamp. -/
inductive ReadError where
  | tooShort
  | invalid
  | outOfRange
  | noSuchTime
  | trailing
  deriving DecidableEq, Repr

def ReadError.message : ReadError → String
  | .tooShort => "premature end of input"
  | .invalid => "input contains invalid characters"
  | .outOfRange => "input is out of range"
  | .noSuchTime => "no possible date and time matching input"
  | .trailing => "trailing input"

def padded (width n : Nat) : List Char :=
  let digits := Nat.toDigits 10 n
  List.replicate (width - digits.length) '0' ++ digits

/-- Four digits, with a sign where the year is negative or needs more digits. -/
def yearText (year : Int) : List Char :=
  if year < 0 then '-' :: padded 4 year.natAbs
  else if 9999 < year then '+' :: padded 4 year.natAbs
  else padded 4 year.natAbs

def fractionText (nanosecond : Nat) : List Char :=
  if nanosecond = 0 then []
  else if nanosecond % 1000000 = 0 then '.' :: padded 3 (nanosecond / 1000000)
  else if nanosecond % 1000 = 0 then '.' :: padded 6 (nanosecond / 1000)
  else '.' :: padded 9 nanosecond

def chars (t : Timestamp) : List Char :=
  yearText t.date.year ++ '-' :: padded 2 t.date.month ++ '-' :: padded 2 t.date.day ++
    'T' :: padded 2 t.hour ++ ':' :: padded 2 t.minute ++ ':' :: padded 2 t.second ++
    fractionText t.nanosecond ++ ['Z']

def text (t : Timestamp) : String := .ofList t.chars

def natOfDigits (cs : List Char) : Nat :=
  cs.foldl (fun n c => 10 * n + (c.toNat - '0'.toNat)) 0

/-- Split off the digits at the start, at most `max` of them. -/
def spanDigits : (max : Nat) → List Char → List Char × List Char
  | 0, cs => ([], cs)
  | _ + 1, [] => ([], [])
  | max + 1, c :: cs =>
    if c.isDigit then
      let (digits, rest) := spanDigits max cs
      (c :: digits, rest)
    else ([], c :: cs)

/-- The digits at the start, at least one and at most `max`. -/
def readDigits (max : Nat) (cs : List Char) : Except ReadError (List Char × List Char) :=
  match cs with
  | [] => .error .tooShort
  | c :: _ => if c.isDigit then .ok (spanDigits max cs) else .error .invalid

/-- The character `c`, after blanks. -/
def expect (c : Char) (cs : List Char) : Except ReadError (List Char) :=
  match trimStart cs with
  | [] => .error .tooShort
  | d :: rest => if d = c then .ok rest else .error .invalid

/-- A year: four digits at most, or a sign and any number of digits. -/
def readYear (cs : List Char) : Except ReadError (Int × List Char) := do
  let cs := trimStart cs
  let (year, rest) ← (match cs with
    | '-' :: cs => do
      let (digits, rest) ← readDigits cs.length cs
      return (-(natOfDigits digits : Int), rest)
    | '+' :: cs => do
      let (digits, rest) ← readDigits cs.length cs
      return ((natOfDigits digits : Int), rest)
    | cs => do
      let (digits, rest) ← readDigits 4 cs
      return ((natOfDigits digits : Int), rest) : Except ReadError (Int × List Char))
  if -2147483648 ≤ year ∧ year ≤ 2147483647 then return (year, rest)
  else throw .outOfRange

/-- A number of one or two digits between `low` and `high`, after blanks. -/
def readField (low high : Nat) (cs : List Char) : Except ReadError (Nat × List Char) := do
  let (digits, rest) ← readDigits 2 (trimStart cs)
  let n := natOfDigits digits
  if low ≤ n ∧ n ≤ high then return (n, rest) else throw .outOfRange

/-- What stands between date and time. -/
def readSeparator : List Char → Except ReadError (List Char)
  | [] => .error .tooShort
  | c :: rest => if c = 'T' ∨ c = 't' ∨ c = ' ' then .ok rest else .error .invalid

/-- The nanoseconds of a fraction, if there is one; digits after the ninth are dropped. -/
def readFraction : List Char → Except ReadError (Nat × List Char)
  | '.' :: cs => do
    let (digits, rest) ← readDigits 9 cs
    return (natOfDigits digits * Nat.pow 10 (9 - digits.length), rest.dropWhile Char.isDigit)
  | cs => .ok (0, cs)

/-- Two digits; `limit` bounds the first of them. -/
def readPair (limit : Nat) : List Char → Except ReadError (Nat × List Char)
  | [] => .error .tooShort
  | [c] => .error (if c.utf8Size < 2 then .tooShort else .invalid)
  | c :: d :: rest =>
    if c.isDigit ∧ d.isDigit then
      let n := natOfDigits [c, d]
      if n < limit then .ok (n, rest) else .error .outOfRange
    else .error .invalid

/-- Hours and minutes of an offset, as minutes. -/
def readHoursMinutes (cs : List Char) : Except ReadError (Nat × List Char) := do
  let (hours, cs) ← readPair 100 cs
  let (minutes, cs) ← readPair 60 (cs.dropWhile fun c => c == ':' || isBlank c)
  return (hours * 60 + minutes, cs)

/-- Minutes east of the meridian, by a sign and hours and minutes, or a letter for none. -/
def readSigned (c : Char) (rest : List Char) : Except ReadError (Int × List Char) :=
  if c = 'Z' ∨ c = 'z' then .ok (0, rest)
  else if c = '+' then do
    let (minutes, rest) ← readHoursMinutes rest
    return ((minutes : Int), rest)
  else if c = '-' ∨ c = '\u2212' then do
    let (minutes, rest) ← readHoursMinutes rest
    return (-(minutes : Int), rest)
  else .error .invalid

/-- Minutes east of the meridian. -/
def readOffset (cs : List Char) : Except ReadError (Int × List Char) :=
  match cs with
  | [] => .error .tooShort
  | u :: t :: c :: rest =>
    if (u = 'U' ∨ u = 'u') ∧ (t = 'T' ∨ t = 't') ∧ (c = 'C' ∨ c = 'c') then .ok (0, rest)
    else readSigned u (t :: c :: rest)
  | c :: rest => readSigned c rest

def readChars (cs : List Char) : Except ReadError Timestamp := do
  let (year, cs) ← readYear cs
  let cs ← expect '-' cs
  let (month, cs) ← readField 1 12 cs
  let cs ← expect '-' cs
  let (day, cs) ← readField 1 31 cs
  let cs ← readSeparator cs
  let (hour, cs) ← readField 0 23 cs
  let cs ← expect ':' cs
  let (minute, cs) ← readField 0 59 cs
  let cs ← expect ':' cs
  let (second, cs) ← readField 0 60 cs
  let (nanosecond, cs) ← readFraction cs
  let (east, cs) ← readOffset (trimStart cs)
  if !(trimStart cs).isEmpty then throw .trailing
  let some date := Date.of? year month day | throw .outOfRange
  if 1440 ≤ east.natAbs then throw .outOfRange
  let some t := ofLocal? date hour minute second nanosecond east | throw .noSuchTime
  return t

/-- The timestamp that a text writes. -/
def ofText (s : String) : Except ReadError Timestamp := readChars s.toList

end BuildOperator.Timestamp
