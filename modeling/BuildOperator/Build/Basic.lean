import BuildOperator.Condition.Basic
import BuildOperator.Metadata
/-!
# Builds

A build is the component of a project to build, with the progress of its pipeline as its status.
-/
namespace BuildOperator

structure BuildSpec where
  project : String
  component : String
  revision : Option String := none
  autoDeploy : Bool := false
  deriving DecidableEq

structure ImageStatus where
  image : String := ""
  deriving DecidableEq

structure BuildStatus where
  conditions : Conditions := []
  imageStatus : ImageStatus := {}
  deriving DecidableEq

instance : Inhabited BuildStatus := ⟨{}⟩

/-- A build, which may carry metadata of any type. -/
structure Build (μ : Type := Metadata) where
  metadata : μ
  spec : BuildSpec
  status : Option BuildStatus := none
  deriving DecidableEq

namespace Build

/-- The generation that the cluster gave the build, zero before its first write. -/
def generation (b : Build) : Int64 := b.metadata.generation.getD 0

def displayName (b : Build) : String := b.metadata.displayName

def conditions (b : Build) : Conditions := b.status.elim [] BuildStatus.conditions

/-- The recorded image, if its name is not empty. -/
def image? (b : Build) : Option String :=
  (b.status.map fun s => s.imageStatus.image).filter (· ≠ "")

/-- The status, an empty one where there is none. -/
def currentStatus (b : Build) : BuildStatus := b.status.getD {}

def modifyStatus (b : Build) (f : BuildStatus → BuildStatus) : Build :=
  { b with status := some (f b.currentStatus) }

def withGeneration (b : Build) (generation : Option Int64) : Build :=
  { b with metadata := { b.metadata with generation } }

end Build
end BuildOperator
