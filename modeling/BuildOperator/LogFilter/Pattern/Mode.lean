import BuildOperator.Text.Blank
/-!
# Modes of patterns

Flags in a pattern decide how the text after them is read. Two of them matter for whether it can be
read at all: blanks and comments may be left out, and characters may be those of ASCII only.
-/
namespace BuildOperator.Pattern

structure Mode where
  /-- Blanks and comments between the parts of a pattern are left out. -/
  extended : Bool := false
  /-- Parts of a pattern stand for characters, whatever their bytes. -/
  unicode : Bool := true
  deriving DecidableEq, Repr

/-- What follows blanks and comments, where `comment` says whether the text starts in a comment. A
comment goes on to the end of its line. -/
def afterBlanks : (comment : Bool) → List Char → List Char
  | _, [] => []
  | true, c :: cs => afterBlanks (c ≠ '\n') cs
  | false, c :: cs =>
    if Text.isBlank c then afterBlanks false cs
    else if c = '#' then afterBlanks true cs
    else c :: cs

namespace Mode

/-- What follows the blanks and comments that this mode leaves out. -/
def skip (m : Mode) (cs : List Char) : List Char := if m.extended then afterBlanks false cs else cs

/-- The character that decides whether a dash before it stands for itself. Of a comment after the
dash only the mark and the blanks are left out here. -/
def afterDash? (m : Mode) (cs : List Char) : Option Char :=
  if m.extended then
    match Text.trimStart cs with
    | '#' :: rest => (Text.trimStart rest).head?
    | rest => rest.head?
  else cs.head?

/-- Put a flag on or off. -/
def set (m : Mode) (flag : Char) (on : Bool) : Mode :=
  if flag = 'x' then { m with extended := on }
  else if flag = 'u' then { m with unicode := on }
  else m

end Mode
end BuildOperator.Pattern
