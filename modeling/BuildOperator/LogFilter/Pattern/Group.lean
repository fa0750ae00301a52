import BuildOperator.LogFilter.Pattern.Mode
import BuildOperator.Text.Alphabetic
/-!
# Groups in patterns

What follows an opening parenthesis: nothing, a name or flags. Flags may also stand alone, and then
hold for the rest of the group around them.
-/
namespace BuildOperator.Pattern

inductive Opening where
  /-- A group, which is read in the given mode. -/
  | group (name : Option (List Char)) (mode : Mode)
  /-- No group, but a change to the given mode. -/
  | flags (mode : Mode)
  deriving DecidableEq, Repr

def canStartName (c : Char) : Bool := c == '_' || Text.isAlphabetic c

def isNameChar (c : Char) : Bool := ['_', '.', '[', ']'].contains c || Text.isAlphanumeric c

/-- A name up to its closing angle bracket. -/
def readName? (cs : List Char) : Option (List Char × List Char) :=
  match cs.takeWhile (· ≠ '>'), cs.dropWhile (· ≠ '>') with
  | c :: name, _ :: rest =>
    if canStartName c && name.all isNameChar then some (c :: name, rest) else none
  | _, _ => none

/-- The flags, and the dash that puts off those after it. -/
def flagChars : List Char := ['i', 'm', 's', 'U', 'u', 'R', 'x', '-']

/-- Flags up to the colon or the parenthesis that ends them: what was read, the last first, the mode
they lead to, and that end. None stands twice, and a dash is not the last. -/
def readFlags? : (seen : List Char) → Mode → List Char → Option (List Char × Mode × List Char)
  | _, _, [] => none
  | seen, m, c :: cs =>
    if c = ':' ∨ c = ')' then if seen.head? = some '-' then none else some (seen, m, c :: cs)
    else if seen.contains c || !flagChars.contains c then none
    else readFlags? (c :: seen) (m.set c (!seen.contains '-')) cs

/-- What follows an opening parenthesis. -/
def readOpening? (m : Mode) (cs : List Char) : Option (Opening × List Char) :=
  let named (cs : List Char) : Option (Opening × List Char) :=
    (readName? cs).map fun (name, rest) => (.group (some name) m, rest)
  match m.skip cs with
  | '?' :: 'P' :: '<' :: cs => named cs
  | '?' :: '<' :: cs => named cs
  | '?' :: cs =>
    match readFlags? [] m cs with
    | some (_, mode, ':' :: rest) => some (.group none mode, rest)
    | some (_ :: _, mode, ')' :: rest) => some (.flags mode, rest)
    | _ => none
  | cs => some (.group none m, cs)

end BuildOperator.Pattern
