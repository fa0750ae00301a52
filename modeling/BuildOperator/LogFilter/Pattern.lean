import BuildOperator.LogFilter.Pattern.Class
import BuildOperator.LogFilter.Pattern.Group
/-!
# Patterns of field values

A field of a log record may be matched by a regular expression. The expression is kept as it is
written; here it is read once to see whether it is well formed, how deeply its parts are nested, and
whether it asks for the ends of words. Braces have no use in it, because a closing one ends the
field.
-/
namespace BuildOperator

/-- Why a text is no pattern. -/
inductive PatternError where
  | malformed
  /-- The ends of words are supported for ASCII only. -/
  | wordBoundary
  deriving DecidableEq, Repr

def PatternError.message : PatternError → String
  | .malformed => "error building NFA"
  | .wordBoundary =>
    "unsupported regex feature for DFAs: cannot build DFAs for regexes with Unicode word " ++
      "boundaries; switch to ASCII word boundaries, or heuristically enable Unicode word " ++
      "boundaries or use a different regex engine"

namespace Pattern

/-- A walk through a pattern. -/
structure Walk where
  rest : List Char
  mode : Mode := {}
  /-- The names of the groups so far. -/
  names : List (List Char) := []
  /-- Whether an end of a word was asked for that is not one of ASCII. -/
  wordBoundary : Bool := false
  deriving DecidableEq, Repr

namespace Walk

/-- The walk into a group, unless another group has its name. -/
def enter? (w : Walk) (name : Option (List Char)) (mode : Mode) (rest : List Char) : Option Walk :=
  match name with
  | none => some { w with mode, rest }
  | some name =>
    if w.names.contains name then none else some { w with mode, rest, names := name :: w.names }

/-- The walk over an atom. -/
def pass (w : Walk) (atom : Atom) (rest : List Char) : Walk :=
  { w with rest, wordBoundary := w.wordBoundary || (atom = .boundary && w.mode.unicode) }

end Walk

/-- The nesting of a group: `branches` of the alternatives that are complete, and `parts` of those
of the last one, where flags are no part that could be repeated. -/
def groupDepth (branches : List Nat) (parts : List (Option Nat)) : Nat :=
  sideBySide (sideBySide (parts.map (·.getD 0)) :: branches)

/-- Read what is left of a group, up to its closing parenthesis or the end of the text: how deeply
it is nested, and the walk up to there. -/
def readGroup? :
    (fuel : Nat) → (branches : List Nat) → (parts : List (Option Nat)) → Walk → Option (Nat × Walk)
  | 0, _, _, _ => none
  | fuel + 1, branches, parts, w =>
    match w.mode.skip w.rest with
    | [] => some (groupDepth branches parts, { w with rest := [] })
    | ')' :: rest => some (groupDepth branches parts, { w with rest := ')' :: rest })
    | '|' :: rest =>
      readGroup? fuel (sideBySide (parts.map (·.getD 0)) :: branches) [] { w with rest }
    | '(' :: rest => do
      match ← readOpening? w.mode rest with
      | (.flags mode, rest) => readGroup? fuel branches (none :: parts) { w with mode, rest }
      | (.group name mode, rest) =>
        let (depth, inner) ← readGroup? fuel [] [] (← w.enter? name mode rest)
        match inner.rest with
        | ')' :: rest =>
          readGroup? fuel branches (some (depth + 1) :: parts) { inner with mode := w.mode, rest }
        | _ => none
    | '[' :: rest => do
      let (depth, rest) ← readClass? w.mode (rest.length + 1) .bracket none [] rest
      readGroup? fuel branches (some depth :: parts) { w with rest }
    | '\x7b' :: _ => none
    | c :: rest =>
      if ['*', '+', '?'].contains c then
        match parts with
        | some depth :: parts =>
          let rest := if rest.head? = some '?' then rest.tail else rest
          readGroup? fuel branches (some (depth + 1) :: parts) { w with rest }
        | _ => none
      else do
        let (atom, rest) ← readAtom? w.mode (c :: rest)
        readGroup? fuel branches (some 0 :: parts) (w.pass atom rest)

/-- How deeply the parts of a pattern may be nested. -/
def maxDepth : Nat := 250

/-- Check a pattern. -/
def check (cs : List Char) : Except PatternError Unit :=
  match readGroup? (cs.length + 1) [] [] { rest := cs } with
  | some (depth, { rest := [], wordBoundary, .. }) =>
    if maxDepth < depth then .error .malformed
    else if wordBoundary then .error .wordBoundary
    else .ok ()
  | _ => .error .malformed

end Pattern
end BuildOperator
