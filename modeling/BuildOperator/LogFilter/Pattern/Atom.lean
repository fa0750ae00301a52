import BuildOperator.LogFilter.Pattern.Mode
import BuildOperator.Text.Hexadecimal
/-!
# Atoms of patterns

The parts of a pattern that have no parts themselves, and the escapes that write them.
-/
namespace BuildOperator.Pattern

inductive Atom where
  | literal (char : Char)
  /-- A character that is written as a byte. -/
  | byte (char : Char)
  /-- Any character. -/
  | any
  /-- Digits, blanks or the characters of words, or all that are none. -/
  | shorthand (negated : Bool)
  /-- The characters of a general category, or all others. -/
  | category
  /-- An end of a line or of the text. -/
  | anchor
  /-- An end of a word, or any other place. -/
  | boundary
  deriving DecidableEq, Repr

namespace Atom

def char? : Atom → Option Char
  | .literal c | .byte c => some c
  | _ => none

/-- Whether the atom can be matched. Where it stands for a byte, that byte has to be a character. -/
def isMatchable (m : Mode) : Atom → Bool
  | .literal _ | .anchor | .boundary => true
  | .byte c => m.unicode || c.toNat < 0x80
  | .shorthand negated => m.unicode || !negated
  | .any | .category => m.unicode

/-- Whether the atom can be an item of a class. -/
def isClassItem (m : Mode) : Atom → Bool
  | .literal c => m.unicode || c.toNat < 0x80
  | .any | .anchor | .boundary => false
  | atom => atom.isMatchable m

end Atom

/-- The number that `count` more hexadecimal digits write, and what follows them. -/
def readHex? (m : Mode) : (count value : Nat) → List Char → Option (Nat × List Char)
  | 0, value, cs => some (value, cs)
  | _ + 1, _, [] => none
  | count + 1, value, c :: cs => do
    readHex? m count (16 * value + (← Text.hexDigit? c)) (m.skip cs)

/-- The character whose number is written by `count` hexadecimal digits. -/
def readCode? (m : Mode) (count : Nat) (cs : List Char) : Option (Char × List Char) := do
  let (n, rest) ← readHex? m count 0 (m.skip cs)
  if n.isValidChar then some (Char.ofNat n, rest) else none

/-- The control character that a letter stands for. -/
def control? : Char → Option Char
  | 'a' => some '\x07'
  | 't' => some '\t'
  | 'n' => some '\n'
  | 'v' => some '\x0b'
  | 'f' => some '\x0c'
  | 'r' => some '\r'
  | _ => none

/-- The atom that a single character after a backslash stands for. A mark stands for itself. -/
def escaped? (c : Char) : Option Atom :=
  if ['d', 's', 'w'].contains c then some (.shorthand false)
  else if ['D', 'S', 'W'].contains c then some (.shorthand true)
  else if ['A', 'z'].contains c then some .anchor
  else if ['b', 'B', '<', '>'].contains c then some .boundary
  else if c.toNat < 0x80 && !c.isAlphanum then some (.literal c)
  else (control? c).map .literal

/-- The general categories whose name is one letter, in either case. -/
def categories : List Char := ['C', 'L', 'M', 'N', 'P', 'S', 'Z']

/-- What follows a backslash. -/
def readEscape? (m : Mode) : List Char → Option (Atom × List Char)
  | [] => none
  | 'x' :: cs => (readCode? m 2 cs).map fun (c, rest) => (.byte c, rest)
  | 'u' :: cs => (readCode? m 4 cs).map fun (c, rest) => (.literal c, rest)
  | 'U' :: cs => (readCode? m 8 cs).map fun (c, rest) => (.literal c, rest)
  | 'p' :: cs | 'P' :: cs =>
    match m.skip cs with
    | [] => none
    | c :: rest => if categories.contains c.toUpper then some (.category, m.skip rest) else none
  | c :: cs => (escaped? c).map fun atom => (atom, cs)

/-- An atom outside a class. -/
def readAtom? (m : Mode) (cs : List Char) : Option (Atom × List Char) :=
  let atom := match cs with
    | [] => none
    | '\\' :: cs => readEscape? m cs
    | '.' :: cs => some (.any, cs)
    | '^' :: cs | '$' :: cs => some (.anchor, cs)
    | c :: cs => some (.literal c, cs)
  atom.filter (·.1.isMatchable m)

end BuildOperator.Pattern
