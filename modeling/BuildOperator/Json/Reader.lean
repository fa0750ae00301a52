import BuildOperator.Json.Form
import BuildOperator.Json.Outline
/-!
# Reading JSON text

The value that a text writes, or the part of it that an outline asks for. A value is nested at most
127 deep, its numbers are not too large, and its strings hold no half of a surrogate pair. Members
are kept as they are written, repeated names included.
-/
namespace BuildOperator.Json

/-- Whether a code is the first half of a surrogate pair. -/
def isHighSurrogate (unit : Nat) : Bool := 0xd800 ≤ unit && unit ≤ 0xdbff

/-- Whether a code is the second half of a surrogate pair. -/
def isLowSurrogate (unit : Nat) : Bool := 0xdc00 ≤ unit && unit ≤ 0xdfff

/-- The characters of a string after those that are `done`. Two codes make one character where they
are a surrogate pair; no other surrogate is allowed. -/
def charsOfLetters? : List Letter → (done : List Char) → Option (List Char)
  | [], done => some done.reverse
  | .char c :: rest, done => charsOfLetters? rest (c :: done)
  | .code high :: .code low :: rest, done =>
    if isHighSurrogate high then
      if isLowSurrogate low then
        charsOfLetters? rest
          (Char.ofNat (0x10000 + (high - 0xd800) * 0x400 + (low - 0xdc00)) :: done)
      else none
    else if isLowSurrogate high then none
    else charsOfLetters? (.code low :: rest) (Char.ofNat high :: done)
  | .code unit :: rest, done =>
    if isHighSurrogate unit || isLowSurrogate unit then none
    else charsOfLetters? rest (Char.ofNat unit :: done)

def textOfLetters? (letters : List Letter) : Option String :=
  .ofList <$> charsOfLetters? letters []

/-- The deepest nesting that is read. -/
def maxDepth : Nat := 127

namespace Form

mutual
/-- The value, if it is nested no deeper than `depth`. -/
def value? : (depth : Nat) → Form → Option Json
  | _, .null => some .null
  | _, .bool b => some (.bool b)
  | _, .number n => .number <$> n.value?
  | _, .string letters => .string <$> textOfLetters? letters
  | 0, .array _ => none
  | depth + 1, .array items => .array <$> itemValues? depth items
  | 0, .object _ => none
  | depth + 1, .object members => .object <$> memberValues? depth members

def itemValues? : (depth : Nat) → List Form → Option (List Json)
  | _, [] => some []
  | depth, x :: xs => do return (← value? depth x) :: (← itemValues? depth xs)

def memberValues? : (depth : Nat) → List (List Letter × Form) → Option (List (String × Json))
  | _, [] => some []
  | depth, (name, x) :: xs => do
    return (← textOfLetters? name, ← value? depth x) :: (← memberValues? depth xs)
end

mutual
/-- The part of a value that an outline asks for. -/
def excerpt? : Outline → Form → Option Json
  | .items each, .array items => .array <$> itemExcerpts? each items
  | .record unique known, .object members => do
    let members ← memberExcerpts? known members
    if unique && !(members.map Prod.fst).Nodup then none else return .object members
  | .record _ known, .array items => .array <$> fieldExcerpts? (known.map Prod.snd) items
  | _, x => value? maxDepth x

def itemExcerpts? (each : Outline) : List Form → Option (List Json)
  | [] => some []
  | x :: xs => do return (← excerpt? each x) :: (← itemExcerpts? each xs)

/-- The known ones among members, all of whose names are read. -/
def memberExcerpts? (known : List (String × Outline)) :
    List (List Letter × Form) → Option (List (String × Json))
  | [] => some []
  | (name, x) :: xs => do
    let name ← textOfLetters? name
    let rest ← memberExcerpts? known xs
    match known.lookup name with
    | some outline => return (name, ← excerpt? outline x) :: rest
    | none => return rest

/-- Items by their places, those beyond the outlines as a whole. -/
def fieldExcerpts? : List Outline → List Form → Option (List Json)
  | _, [] => some []
  | outlines, x :: xs => do
    return (← excerpt? (outlines.head?.getD .whole) x) :: (← fieldExcerpts? outlines.tail xs)
end

end Form

/-- The value that a text writes, members as written. -/
def ofText? (s : String) : Option Json := do (← Form.ofText? s).value? maxDepth

/-- The part of the value of a text that an outline asks for. -/
def excerptOfText? (outline : Outline) (s : String) : Option Json := do
  (← Form.ofText? s).excerpt? outline

end BuildOperator.Json
