import BuildOperator.Json.Outline
import BuildOperator.Json.Writer
import BuildOperator.Text.Quoted
import BuildOperator.Timestamp.Text
/-!
# Decoding JSON

Readers of JSON values into types, and why a value is refused. The members of an object are read
in key order and the first refused one decides; a member that is missing counts after all that are
there.
-/
namespace BuildOperator

/-- Why a JSON value is not of the wanted type. -/
inductive DecodeError where
  | missingField (name : String)
  | invalidType (found : Json) (expected : String)
  | invalidValue (found : Json) (expected : String)
  | unknownVariant (name : String) (choices : List String)
  | invalidLength (length : Nat) (expected : String)
  | repeatedField (name : String)
  | time (reason : Timestamp.ReadError)
  deriving DecidableEq

/-- What kind of value was found, for messages. -/
def Json.kindText : Json → String
  | .null => "null"
  | .bool b => "boolean " ++ Text.ticked (if b then "true" else "false")
  | .number (.integer n) => "integer " ++ Text.ticked (toString n)
  | .number (.decimal d) => "floating point " ++ Text.ticked d.text
  | .string s => "string " ++ Text.quoted s
  | .array _ => "sequence"
  | .object _ => "map"

def DecodeError.message : DecodeError → String
  | .missingField name => "missing field " ++ Text.ticked name
  | .invalidType found expected => "invalid type: " ++ found.kindText ++ ", expected " ++ expected
  | .invalidValue found expected => "invalid value: " ++ found.kindText ++ ", expected " ++ expected
  | .unknownVariant name choices =>
    "unknown variant " ++ Text.ticked name ++ ", expected one of " ++
      ", ".intercalate (choices.map Text.ticked)
  | .invalidLength length expected =>
    "invalid length " ++ toString length ++ ", expected " ++ expected
  | .repeatedField name => "duplicate field " ++ Text.ticked name
  | .time reason => reason.message

abbrev Decoder (α : Type) := Json → Except DecodeError α

namespace Decode
variable {α β : Type}

def string : Decoder String
  | .string s => .ok s
  | x => .error (.invalidType x "a string")

def bool : Decoder Bool
  | .bool b => .ok b
  | x => .error (.invalidType x "a boolean")

/-- An integer between `low` and `high`; `name` names that range. -/
def integer (name : String) (low high : Int) : Decoder Int
  | .number (.integer n) =>
    if low ≤ n ∧ n ≤ high then .ok n else .error (.invalidValue (.ofInt n) name)
  | x => .error (.invalidType x name)

def int64 : Decoder Int64 := fun x =>
  Int64.ofInt <$> integer "i64" (-9223372036854775808) 9223372036854775807 x

def int32 : Decoder Int32 := fun x => Int32.ofInt <$> integer "i32" (-2147483648) 2147483647 x

def uint16 : Decoder UInt16 := fun x => (UInt16.ofNat ·.toNat) <$> integer "u16" 0 65535 x

/-- Null stands for no value. -/
def optional (f : Decoder α) : Decoder (Option α)
  | .null => .ok none
  | x => some <$> f x

def list (f : Decoder α) : Decoder (List α)
  | .array items => items.mapM f
  | x => .error (.invalidType x "a sequence")

def strings : Decoder (List String) := list string

/-- Two values, as an array. -/
def pair (f : Decoder α) (g : Decoder β) : Decoder (α × β)
  | .array items =>
    let expected := "a tuple of size 2"
    match items with
    | [] => .error (.invalidLength 0 expected)
    | [x] => do
      let _ ← f x
      throw (.invalidLength 1 expected)
    | x :: y :: rest => do
      let a ← f x
      let b ← g y
      if rest.isEmpty then return (a, b)
      throw (.invalidLength items.length "fewer elements in array")
  | x => .error (.invalidType x "a tuple of size 2")

/-- A dictionary; its values are read in key order. -/
def dictionary (f : Decoder α) : Decoder (Dictionary α)
  | .object members => (Dictionary.ofList members).traverse f
  | x => .error (.invalidType x "a map")

/-- What `name` stands for among `choices`. -/
def choose (choices : List (String × α)) (name : String) : Except DecodeError α :=
  match choices.lookup name with
  | some a => .ok a
  | none => .error (.unknownVariant name (choices.map Prod.fst))

/-- One of finitely many names, as a string or as the only key of an object that holds null. -/
def variant (choices : List (String × α)) : Decoder α
  | .string s => choose choices s
  | .object [(s, x)] => do
    let a ← choose choices s
    if x = .null then return a else throw (.invalidType x "unit")
  | .object members => .error (.invalidValue (.object members) "map with a single key")
  | x => .error (.invalidType x "string or map")

def time : Decoder Timestamp
  | .string s => (Timestamp.ofText s).mapError .time
  | x => .error (.invalidType x "an RFC 3339 formatted date and time string")

/-- The member of that name, if there is one. -/
def present (members : List (String × Json)) (name : String) (f : Decoder α) :
    Except DecodeError (Option α) :=
  match members.lookup name with
  | none => .ok none
  | some x => some <$> f x

/-- The value of a member that has to be there. -/
def required (name : String) : Option α → Except DecodeError α
  | some a => .ok a
  | none => .error (.missingField name)

/-- The member of that name; null and no member both stand for no value. -/
def nullable (members : List (String × Json)) (name : String) (f : Decoder α) :
    Except DecodeError (Option α) :=
  Option.join <$> present members name (optional f)

/-- A member that, when it is there, names the type of the object. -/
def constant (members : List (String × Json)) (name value : String) : Except DecodeError Unit := do
  match ← present members name string with
  | none => return ()
  | some found => if found = value then return () else throw (.invalidValue (.string found) value)

/-- The name of a record type and how many fields it has. A record is an object, or an array of its
fields in order. -/
structure Shape where
  name : String
  size : Nat

def Shape.expected (shape : Shape) : String := "struct " ++ shape.name

/-- The field at position `index`. -/
def item (shape : Shape) (items : List Json) (index : Nat) (f : Decoder α) :
    Except DecodeError α :=
  match items[index]? with
  | some x => f x
  | none =>
    .error (.invalidLength index
      (shape.expected ++ " with " ++ toString shape.size ++
        if shape.size = 1 then " element" else " elements"))

/-- The field at position `index`, or `default` where the array ends before it. -/
def itemOr (default : α) (items : List Json) (index : Nat) (f : Decoder α) :
    Except DecodeError α :=
  match items[index]? with
  | some x => f x
  | none => .ok default

/-- A record, by a reader of its members and one of its fields in order. -/
def struct (shape : Shape) (ofMembers : List (String × Json) → Except DecodeError α)
    (ofItems : List Json → Except DecodeError α) : Decoder α
  | .object members => ofMembers members
  | .array items => do
    let a ← ofItems items
    if shape.size < items.length then
      throw (.invalidLength items.length "fewer elements in array")
    return a
  | x => .error (.invalidType x shape.expected)

/-- An object; `name` names its type. -/
def object (name : String) (ofMembers : List (String × Json) → Except DecodeError α) : Decoder α
  | .object members => ofMembers members
  | x => .error (.invalidType x name)

end Decode
end BuildOperator
