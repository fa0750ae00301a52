import BuildOperator.Dictionary
import BuildOperator.Settings
/-!
# Command line

The settings from the arguments of the command and from its environment. An argument comes before
the environment, and the environment before the default. Each option takes one value, as the next
argument or after an equals sign, and may be given once.
-/
namespace BuildOperator.CommandLine

inductive Setting where
  | namespaceStem
  | workflowRbac
  | fieldManager
  | logFormat
  | logFilter
  deriving DecidableEq, Repr

namespace Setting

def all : List Setting := [.namespaceStem, .workflowRbac, .fieldManager, .logFormat, .logFilter]

/-- The option after its two dashes. -/
def option : Setting → String
  | .namespaceStem => "ci-namespace-prefix"
  | .workflowRbac => "workflow-rbac"
  | .fieldManager => "field-manager"
  | .logFormat => "log-format"
  | .logFilter => "log-filter"

/-- The variable of the environment. -/
def variableName : Setting → String
  | .namespaceStem => "KEEL_CI_NAMESPACE_PREFIX"
  | .workflowRbac => "KEEL_WORKFLOW_RBAC"
  | .fieldManager => "KEEL_FIELD_MANAGER"
  | .logFormat => "KEEL_LOG_FORMAT"
  | .logFilter => "KEEL_LOG_FILTER"

def ofOption? (name : List Char) : Option Setting := all.find? fun s => s.option.toList = name

end Setting

/-- Why no settings come of a command line. -/
inductive UsageError where
  | unknownArgument
  | invalidValue
  | argumentConflict
  | tooManyValues
  | displayHelp
  deriving DecidableEq, Repr

def UsageError.name : UsageError → String
  | .unknownArgument => "UnknownArgument"
  | .invalidValue => "InvalidValue"
  | .argumentConflict => "ArgumentConflict"
  | .tooManyValues => "TooManyValues"
  | .displayHelp => "DisplayHelp"

def readBool? (s : String) : Option Bool :=
  if s = "true" then some true else if s = "false" then some false else none

def readFormat? (s : String) : Option LogFormat :=
  if s = "json" then some .json else if s = "pretty" then some .pretty else none

/-- Whether a setting can have that value. -/
def accepts : Setting → String → Bool
  | .workflowRbac, value => (readBool? value).isSome
  | .logFormat, value => (readFormat? value).isSome
  | _, _ => true

abbrev Values := List (Setting × String)

/-- What was read: the settled values, and the option read last, with its value if that was read. -/
structure Progress where
  settled : Values := []
  pending : Option (Setting × Option String) := none

namespace Progress

/-- Give a setting its value. -/
def assign (p : Progress) (setting : Setting) (value : String) : Except UsageError Progress :=
  if (p.settled.lookup setting).isSome then .error .argumentConflict
  else if accepts setting value then .ok { p with settled := (setting, value) :: p.settled }
  else .error .invalidValue

/-- Settle the option that was read last. -/
def settle (p : Progress) : Except UsageError Progress :=
  match p.pending with
  | none => .ok p
  | some (_, none) => .error .invalidValue
  | some (setting, some value) => ({ p with pending := none } : Progress).assign setting value

end Progress

/-- The part before the first equals sign, and the part after it if there is one. -/
def splitEquals (cs : List Char) : List Char × Option (List Char) :=
  match cs.dropWhile (· ≠ '=') with
  | [] => (cs, none)
  | _ :: value => (cs.takeWhile (· ≠ '='), some value)

/-- Read an option without its dashes. -/
def readOption (cs : List Char) (p : Progress) : Except UsageError Progress :=
  match splitEquals cs with
  | (name, value?) =>
    match Setting.ofOption? name, value? with
    | some setting, some value => do (← p.settle).assign setting (.ofList value)
    | some setting, none => do return { (← p.settle) with pending := some (setting, none) }
    | none, value? =>
      if name = "help".toList then
        match value? with
        | some _ => .error .tooManyValues
        | none => do
          let _ ← p.settle
          .error .displayHelp
      else .error .unknownArgument

/-- Read one argument that stands before any pair of dashes. -/
def readArgument (argument : String) (p : Progress) : Except UsageError Progress :=
  match argument.toList with
  | '-' :: '-' :: cs => readOption cs p
  | '-' :: 'h' :: _ => do
    let _ ← p.settle
    .error .displayHelp
  | '-' :: _ :: _ => .error .unknownArgument
  | _ =>
    match p.pending with
    | some (setting, none) => .ok { p with pending := some (setting, some argument) }
    | _ => .error .unknownArgument

/-- The values that the arguments give. Nothing may follow a pair of dashes. -/
def readArguments : List String → Progress → Except UsageError Values
  | [], p => do return (← p.settle).settled
  | "--" :: rest, p =>
    if rest.isEmpty then do return (← p.settle).settled else .error .unknownArgument
  | argument :: rest, p => do readArguments rest (← readArgument argument p)

/-- The value of a setting from the arguments or the environment. -/
def value? (values : Values) (environment : Dictionary String) (setting : Setting) :
    Except UsageError (Option String) :=
  match values.lookup setting with
  | some value => .ok (some value)
  | none =>
    match environment.get? setting.variableName with
    | none => .ok none
    | some value => if accepts setting value then .ok (some value) else .error .invalidValue

def read (arguments : List String) (environment : Dictionary String) :
    Except UsageError (Settings × LogSettings) := do
  let values ← readArguments arguments {}
  let namespaceStem ← value? values environment .namespaceStem
  let workflowRbac ← value? values environment .workflowRbac
  let fieldManager ← value? values environment .fieldManager
  let format ← value? values environment .logFormat
  let filter ← value? values environment .logFilter
  let settings : Settings := {}
  let logs : LogSettings := {}
  return (
    { namespaceStem := namespaceStem.getD settings.namespaceStem
      workflowRbac := (workflowRbac.bind readBool?).getD settings.workflowRbac
      fieldManager := fieldManager.getD settings.fieldManager },
    { format := (format.bind readFormat?).getD logs.format
      filter := filter.getD logs.filter })

end BuildOperator.CommandLine
