import BuildOperator.LogFilter.Pattern.Atom
/-!
# Classes of characters in patterns

A class stands in brackets and holds characters, ranges of them and other classes. Two marks of one
sort, such as two ampersands, combine all before them with what follows.
-/
namespace BuildOperator.Pattern

/-- How deeply parts side by side are nested, from how deeply each of them is; one that stands alone
is not side by side with anything. -/
def sideBySide : List Nat → Nat
  | [] => 0
  | [depth] => depth
  | depths => 1 + depths.foldr max 0

/-- The nesting of what has been read of a class: `left` that of what is combined with the items. -/
def combined (left : Option Nat) (items : List Nat) : Nat :=
  match left with
  | none => sideBySide items
  | some depth => 1 + max depth (sideBySide items)

def classNames : List String :=
  ["alnum", "alpha", "ascii", "blank", "cntrl", "digit", "graph", "lower", "print", "punct",
    "space", "upper", "word", "xdigit"]

/-- What follows the bracket of a named class, and whether that class is negated. -/
def readNamed? : List Char → Option (Bool × List Char)
  | ':' :: cs =>
    let (negated, cs) := match cs with
      | '^' :: cs => (true, cs)
      | cs => (false, cs)
    match cs.dropWhile (· ≠ ':') with
    | ':' :: ']' :: rest =>
      if classNames.contains (.ofList (cs.takeWhile (· ≠ ':'))) then some (negated, rest) else none
    | _ => none
  | _ => none

/-- An item of a class: every character but a backslash stands for itself. -/
def readItem? (m : Mode) (cs : List Char) : Option (Atom × List Char) :=
  let item := match cs with
    | [] => none
    | '\\' :: cs => readEscape? m cs
    | c :: cs => some (.literal c, cs)
  item.filter (·.1.isClassItem m)

/-- What follows an item, or two with a dash between them. A dash before a closing bracket or
another dash makes no range. -/
def afterRange? (m : Mode) (cs : List Char) : Option (List Char) := do
  let (first, cs) ← readItem? m cs
  match m.skip cs with
  | '-' :: rest =>
    if m.afterDash? rest = some ']' ∨ m.afterDash? rest = some '-' then return '-' :: rest
    else
      let (last, rest) ← readItem? m (m.skip rest)
      if (← first.char?) ≤ (← last.char?) then return rest else none
  | rest => return rest

/-- Marks that combine classes when they stand twice. -/
def operators : List Char := ['&', '-', '~']

/-- How far a class has been read: its bracket, its caret and dashes, or an item. -/
inductive ClassStage where
  | bracket
  | start
  | items
  deriving DecidableEq, Repr

/-- Read the rest of a class: how deeply it is nested, and what follows it. A caret comes first;
then any dashes stand for themselves, or else a closing bracket does. -/
def readClass? (m : Mode) :
    (fuel : Nat) → ClassStage → (left : Option Nat) → (items : List Nat) → List Char →
      Option (Nat × List Char)
  | 0, _, _, _, _ => none
  | fuel + 1, stage, left, items, cs =>
    match m.skip cs with
    | [] => none
    | c :: rest =>
      if stage = .bracket ∧ c = '^' then
        if m.unicode then readClass? m fuel .start left items rest else none
      else if stage ≠ .items ∧ c = '-' then readClass? m fuel .start left (0 :: items) rest
      else if stage ≠ .items ∧ items = [] ∧ c = ']' then readClass? m fuel .items left [0] rest
      else if c = ']' then some (1 + combined left items, rest)
      else if c = '[' then
        match readNamed? rest with
        | some (negated, rest) =>
          if m.unicode || !negated then readClass? m fuel .items left (0 :: items) rest else none
        | none => do
          let (depth, rest) ← readClass? m fuel .bracket none [] rest
          readClass? m fuel .items left (depth :: items) rest
      else if operators.contains c ∧ rest.head? = some c then
        readClass? m fuel .items (some (combined left items)) [] rest.tail
      else do
        readClass? m fuel .items left (0 :: items) (← afterRange? m (c :: rest))

end BuildOperator.Pattern
