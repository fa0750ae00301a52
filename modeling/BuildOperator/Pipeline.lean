import BuildOperator.Condition.Basic
import BuildOperator.Json.Decode
/-!
# Pipelines

The steps of a pipeline, what they record, the output of the last step, and the events by which a
pipeline reports its progress.
-/
namespace BuildOperator

inductive Step where
  | clone
  | build
  | push
  deriving DecidableEq, Repr

/-- The reason and the message that an outcome is recorded with. -/
structure Remark where
  reason : ConditionReason
  message : String
  deriving DecidableEq

namespace Step

def all : List Step := [.clone, .build, .push]

def name : Step → String
  | .clone => "Clone"
  | .build => "Build"
  | .push => "Push"

def displayName : Step → String
  | .clone => "clone"
  | .build => "build"
  | .push => "push"

/-- The condition type that records the outcome of a step. -/
def conditionType : Step → ConditionType
  | .clone => .cloneSucceeded
  | .build => .buildSucceeded
  | .push => .pushSucceeded

def success : Step → Remark
  | .clone => ⟨.cloneSucceeded, "Source code cloning was successful."⟩
  | .build => ⟨.buildSucceeded, "Building the source code was successful."⟩
  | .push => ⟨.pushSucceeded, "Pushing the built image to the registry was successful."⟩

def failure : Step → Remark
  | .clone => ⟨.cloneFailed, "Source code cloning failed."⟩
  | .build => ⟨.buildFailed, "Building the source code failed."⟩
  | .push => ⟨.pushFailed, "Pushing the built image to the registry failed."⟩

def ofJson : Decoder Step := Decode.variant (all.map fun s => (s.name, s))

def toJson (s : Step) : Json := .string s.name

end Step

/-- The named parameters that the last step of a pipeline puts out. -/
structure PipelineOutput where
  parameters : Dictionary (Option String)
  deriving DecidableEq

namespace PipelineOutput

def empty : PipelineOutput := ⟨.empty⟩

/-- Set a parameter. -/
def parameter (o : PipelineOutput) (name : String) (value : Option String) : PipelineOutput :=
  ⟨o.parameters.insert name value⟩

/-- The output with these parameters; of parameters with one name the last counts. -/
def ofList (parameters : List (String × Option String)) : PipelineOutput := ⟨.ofList parameters⟩

def get? (o : PipelineOutput) (name : String) : Option String := (o.parameters.get? name).join

/-- The parameter that names the image a pipeline made. -/
def imageParameter : String := "image"

/-- The image, where it has a name that is not empty. -/
def image? (o : PipelineOutput) : Option String := (o.get? imageParameter).filter (· ≠ "")

def toJson (o : PipelineOutput) : Json := .ofDictionary (.ofOption .string) o.parameters

def ofJson : Decoder PipelineOutput := fun x =>
  (⟨·⟩) <$> Decode.dictionary (Decode.optional Decode.string) x

end PipelineOutput

/-- What a pipeline reports. -/
inductive PipelineEvent where
  | accepted
  | stepSucceeded (step : Step)
  | stepFailed (step : Step)
  | succeeded (output : PipelineOutput)
  deriving DecidableEq

end BuildOperator
