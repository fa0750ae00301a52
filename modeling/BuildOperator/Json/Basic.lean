import BuildOperator.Decimal.Basic
import BuildOperator.Dictionary
/-!
# JSON values

Integers and decimals are different numbers, even where their values agree. The members of an
object stand in a list; the canonical form of a value has them in key order, one for each key.
-/
namespace BuildOperator

inductive Number where
  | integer (value : Int)
  | decimal (value : Decimal)
  deriving DecidableEq, Repr

inductive Json where
  | null
  | bool (value : Bool)
  | number (value : Number)
  | string (value : String)
  | array (items : List Json)
  | object (members : List (String × Json))
  deriving Repr, Inhabited

namespace Json

mutual
/-- Equality of JSON values is decidable. -/
def decEq : (x y : Json) → Decidable (x = y)
  | .null, .null => isTrue rfl
  | .bool a, .bool b => decidable_of_iff (a = b) (by simp)
  | .number a, .number b => decidable_of_iff (a = b) (by simp)
  | .string a, .string b => decidable_of_iff (a = b) (by simp)
  | .array xs, .array ys =>
    match decEqItems xs ys with
    | isTrue h => isTrue (by rw [h])
    | isFalse h => isFalse (by simpa using h)
  | .object xs, .object ys =>
    match decEqMembers xs ys with
    | isTrue h => isTrue (by rw [h])
    | isFalse h => isFalse (by simpa using h)
  | .null, .bool _ | .null, .number _ | .null, .string _ | .null, .array _ | .null, .object _
  | .bool _, .null | .bool _, .number _ | .bool _, .string _ | .bool _, .array _
  | .bool _, .object _
  | .number _, .null | .number _, .bool _ | .number _, .string _ | .number _, .array _
  | .number _, .object _
  | .string _, .null | .string _, .bool _ | .string _, .number _ | .string _, .array _
  | .string _, .object _
  | .array _, .null | .array _, .bool _ | .array _, .number _ | .array _, .string _
  | .array _, .object _
  | .object _, .null | .object _, .bool _ | .object _, .number _ | .object _, .string _
  | .object _, .array _ => isFalse (by simp)

def decEqItems : (xs ys : List Json) → Decidable (xs = ys)
  | [], [] => isTrue rfl
  | [], _ :: _ => isFalse (by simp)
  | _ :: _, [] => isFalse (by simp)
  | x :: xs, y :: ys =>
    match decEq x y, decEqItems xs ys with
    | isTrue h, isTrue hs => isTrue (by rw [h, hs])
    | isFalse h, _ => isFalse (by simp [h])
    | _, isFalse hs => isFalse (by simp [hs])

def decEqMembers : (xs ys : List (String × Json)) → Decidable (xs = ys)
  | [], [] => isTrue rfl
  | [], _ :: _ => isFalse (by simp)
  | _ :: _, [] => isFalse (by simp)
  | (k, x) :: xs, (l, y) :: ys =>
    match decEq x y, decEqMembers xs ys with
    | isTrue h, isTrue hs => decidable_of_iff (k = l) (by simp [h, hs])
    | isFalse h, _ => isFalse (by simp [h])
    | _, isFalse hs => isFalse (by simp [hs])
end

instance : DecidableEq Json := decEq

def ofInt (n : Int) : Json := .number (.integer n)

def ofNat (n : Nat) : Json := ofInt n

def ofOption {α : Type} (f : α → Json) : Option α → Json
  | none => .null
  | some a => f a

/-- An object of the members that are present. -/
def record (members : List (Option (String × Json))) : Json := .object (members.filterMap id)

/-- A member that is always written. -/
def field (name : String) (value : Json) : Option (String × Json) := some (name, value)

/-- A member that is left out when there is no value. -/
def field? {α : Type} (name : String) (f : α → Json) (value : Option α) :
    Option (String × Json) :=
  value.map fun a => (name, f a)

def strings (xs : List String) : Json := .array (xs.map .string)

/-- An object with the entries of a dictionary, in key order. -/
def ofDictionary {α : Type} (f : α → Json) (d : Dictionary α) : Json :=
  .object (d.entries.map fun e => (e.1, f e.2))

/-- The member of that name, or null. -/
def member (x : Json) (name : String) : Json :=
  match x with
  | .object members => (members.lookup name).getD .null
  | _ => .null

mutual
/-- The same value with the members of every object in key order; of members with one key the last
counts. -/
def canonical : Json → Json
  | .array items => .array (canonicalItems items)
  | .object members => .object (Dictionary.ofList (canonicalMembers members)).entries
  | .null => .null
  | .bool b => .bool b
  | .number n => .number n
  | .string s => .string s

def canonicalItems : List Json → List Json
  | [] => []
  | x :: xs => canonical x :: canonicalItems xs

def canonicalMembers : List (String × Json) → List (String × Json)
  | [] => []
  | (k, x) :: xs => (k, canonical x) :: canonicalMembers xs
end

mutual
/-- The value by which two are compared: a negative zero is the same as zero. -/
def comparable : Json → Json
  | .array items => .array (comparableItems items)
  | .object members => .object (comparableMembers members)
  | .number (.decimal d) => .number (.decimal d.comparable)
  | .number (.integer n) => .number (.integer n)
  | .null => .null
  | .bool b => .bool b
  | .string s => .string s

def comparableItems : List Json → List Json
  | [] => []
  | x :: xs => comparable x :: comparableItems xs

def comparableMembers : List (String × Json) → List (String × Json)
  | [] => []
  | (k, x) :: xs => (k, comparable x) :: comparableMembers xs
end

end Json
end BuildOperator
