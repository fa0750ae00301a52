import BuildOperator.LogFilter.Field
import BuildOperator.Text.Alphanumeric
import BuildOperator.Text.Blank
import BuildOperator.Text.Bytes
import BuildOperator.Text.Quoted
/-!
# Log directives

A directive gives the most verbose level that is logged, for one target or for all. In brackets it
may ask for a span, by its name, by a field in braces, or by both. The text of a directive is
scanned without the blanks at its ends, but its parts are taken at the places of the scan from the
text with all its blanks.
-/
namespace BuildOperator

/-- Why a text is no filter. -/
inductive LogFilterError where
  | directive
  | level
  | field (reason : PatternError)
  deriving DecidableEq, Repr

def LogFilterError.reason : LogFilterError → String
  | .directive => "invalid filter directive"
  | .level =>
    "error parsing level filter: expected one of " ++
      ", ".intercalate (LogLevel.all.map fun level => Text.quoted level.name) ++
      ", or a number 0-5"
  | .field reason => "invalid field filter: " ++ reason.message

def LogFilterError.message (e : LogFilterError) : String := "invalid log filter: " ++ e.reason

structure LogDirective where
  target : Option String := none
  span : Option String := none
  field : Option FieldMatch := none
  level : LogLevel := .trace
  deriving DecidableEq

namespace LogDirective

/-- A scan: the text with its blanks, the place that is reached, and what is left to scan. -/
structure Scan where
  text : List Char
  place : Nat
  rest : List Char

namespace Scan

def ofText (text : List Char) : Scan := ⟨text, 0, Text.trimEnd (Text.trimStart text)⟩

/-- Move over some characters that are not scanned again. -/
def moveTo (s : Scan) (passed rest : List Char) : Scan :=
  ⟨s.text, s.place + Text.byteLength passed, rest⟩

/-- The part before the next of these characters, that character, and the scan after it. -/
def upTo? (s : Scan) (stops : List Char) : Option (List Char × Char × Scan) :=
  let passed := s.rest.takeWhile fun c => !stops.contains c
  match s.rest.dropWhile fun c => !stops.contains c with
  | [] => none
  | c :: rest =>
    some (Text.takeBytes (Text.byteLength passed) (Text.dropBytes s.place s.text), c,
      s.moveTo (passed ++ [c]) rest)

/-- All that follows the place that is reached. -/
def remainder (s : Scan) : List Char := Text.dropBytes s.place s.text

end Scan

/-- What a directive may start with, if not with a bracket. -/
def canStart (c : Char) : Bool := Text.isAlphanumeric c || c == '-' || c == ':' || c == '_'

/-- The level after an equals sign; no text is the most verbose one. -/
def readLevel (s : Scan) : Except LogFilterError LogLevel :=
  match s.remainder with
  | [] => .ok .trace
  | cs =>
    match LogLevel.read? cs with
    | some level => .ok level
    | none => .error .level

/-- The level after the closing bracket, if one is given. -/
def readOptionalLevel (s : Scan) : Except LogFilterError LogLevel :=
  match s.rest with
  | [] => .ok .trace
  | '=' :: rest => readLevel (s.moveTo ['='] rest)
  | _ => .error .directive

/-- What follows the opening brace. -/
def readField (d : LogDirective) (s : Scan) : Except LogFilterError LogDirective :=
  match s.upTo? ['\x7d'] with
  | none | some ([], _) => .error .directive
  | some (field, _, s) => do
    let field ← (FieldMatch.read field).mapError .field
    match s.rest with
    | ']' :: rest =>
      return { d with field := some field, level := ← readOptionalLevel (s.moveTo [']'] rest) }
    | _ => throw .directive

/-- What follows the opening bracket. -/
def readSpan (d : LogDirective) (s : Scan) : Except LogFilterError LogDirective :=
  match s.upTo? [']', '\x7b'] with
  | none => .error .directive
  | some (span, ']', s) => do
    return { d with span := some (.ofList span), level := ← readOptionalLevel s }
  | some (span, _, s) =>
    readField { d with span := if span.isEmpty then none else some (.ofList span) } s

/-- Read a directive: a level or a target, a target with a level, or what asks for a span. -/
def read (cs : List Char) : Except LogFilterError LogDirective :=
  let s := Scan.ofText cs
  match s.rest with
  | [] => .error .directive
  | '[' :: rest => readSpan {} (s.moveTo ['['] rest)
  | c :: _ =>
    if !canStart c then .error .directive
    else
      match s.upTo? ['=', '['] with
      | none =>
        match LogLevel.read? cs with
        | some level => .ok { level }
        | none => .ok { target := some (.ofList cs) }
      | some (target, '[', s) => readSpan { target := some (.ofList target) } s
      | some (target, _, s) => do
        return { target := some (.ofList target), level := ← readLevel s }

/-- The order of how specific directives are: by the length of the target, by whether a span is
named, by whether a field is asked for, and then by their texts. The level does not count. -/
def order (a b : LogDirective) : Ordering :=
  (Comparison.options Comparison.nats (a.target.map String.utf8ByteSize)
      (b.target.map String.utf8ByteSize)).then <|
  (Comparison.bools a.span.isSome b.span.isSome).then <|
  (Comparison.bools a.field.isSome b.field.isSome).then <|
  (Comparison.options Comparison.texts a.target b.target).then <|
  (Comparison.options Comparison.texts a.span b.span).then <|
  Comparison.options FieldMatch.order a.field b.field

/-- Put a directive in its place, the most specific first, instead of one that asks for the same. -/
def insert (d : LogDirective) : List LogDirective → List LogDirective
  | [] => [d]
  | e :: rest =>
    match order d e with
    | .eq => d :: rest
    | .gt => d :: e :: rest
    | .lt => e :: insert d rest

/-- Whether the directive is decided without a span at hand: it names none, and a field only by its
name. -/
def isStatic (d : LogDirective) : Bool :=
  d.span.isNone && d.field.all fun f => f.value.isNone

/-- Whether the directive asks for a span. -/
def isDynamic (d : LogDirective) : Bool := d.span.isSome || d.field.isSome

def text (d : LogDirective) : String :=
  let field := match d.field with
    | none => ""
    | some f => "\x7b" ++ f.text ++ "\x7d"
  let scope := d.target.getD "" ++
    if d.isDynamic then "[" ++ d.span.getD "" ++ field ++ "]" else ""
  if d.target.isSome || d.isDynamic then scope ++ "=" ++ d.level.name else d.level.name

end LogDirective
end BuildOperator
