import BuildOperator.LogFilter.Directive
import BuildOperator.Settings
/-!
# Log filters

A filter is a list of directives between commas. Directives stand in order of how specific they are,
and of those that ask for the same only the last one counts. What can be decided without a span is
kept apart from what asks for one; a directive for a field without a value is both.
-/
namespace BuildOperator

/-- The directives of a filter, most specific first. -/
structure LogFilter where
  statics : List LogDirective
  dynamics : List LogDirective
  deriving DecidableEq

namespace LogFilter

/-- The parts of a text between commas. -/
def splitCommas (cs : List Char) : List (List Char) :=
  cs.foldr (fun c parts =>
    if c = ',' then [] :: parts
    else match parts with
      | [] => [[c]]
      | part :: rest => (c :: part) :: rest) [[]]

/-- Directives in order. -/
def sort (directives : List LogDirective) : List LogDirective :=
  directives.foldl (fun ds d => LogDirective.insert d ds) []

def ofDirectives (directives : List LogDirective) : LogFilter :=
  ⟨sort (directives.filter LogDirective.isStatic), sort (directives.filter LogDirective.isDynamic)⟩

/-- Read a filter: directives between commas, empty ones left out. A comma in braces separates
directives too. -/
def read (s : String) : Except LogFilterError LogFilter := do
  let parts := (splitCommas s.toList).filter fun part => !part.isEmpty
  return ofDirectives (← parts.mapM LogDirective.read)

def text (f : LogFilter) : String :=
  ",".intercalate ((f.statics ++ f.dynamics).map LogDirective.text)

end LogFilter

/-- Why logging could not be set up. -/
inductive LoggingError where
  | filter (reason : LogFilterError)
  /-- Logging has been set up before. -/
  | installed
  deriving DecidableEq

def LoggingError.message : LoggingError → String
  | .filter reason => reason.message
  | .installed =>
    "failed to initialize tracing subscriber: " ++
      "a global default trace dispatcher has already been set"

namespace LogSettings

/-- The filter of the environment, or that of the settings where the environment has no valid
one. -/
def filterIn (s : LogSettings) (environment : Option String) : Except LogFilterError LogFilter :=
  match environment.map LogFilter.read with
  | some (.ok filter) => .ok filter
  | _ => LogFilter.read s.filter

/-- Set up logging, which is possible once. -/
def install (s : LogSettings) (installed : Bool) (environment : Option String) :
    Except LoggingError LogFilter := do
  let filter ← (s.filterIn environment).mapError .filter
  if installed then throw .installed
  return filter

end LogSettings
end BuildOperator
