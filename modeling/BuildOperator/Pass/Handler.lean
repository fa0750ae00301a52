import BuildOperator.Pass.Basic
/-!
# Handlers

A handler knows one object that a build may need: whether it is needed, how to look it up, and how
to make, mend and remove it. Handlers are applied in order, up to the first failure.
-/
namespace BuildOperator

structure Handler (Q : Type) (A : Q → Type) where
  name : String
  required : Bool
  current : Task Q A (Option ManagedObject)
  create : Task Q A Unit
  update : ManagedObject → Task Q A Unit
  delete : Task Q A Unit

/-- What was done about the object of a handler. -/
inductive Applied where
  | removed
  | created
  | converged
  deriving DecidableEq, Repr

def Applied.name : Applied → String
  | .removed => "Removed"
  | .created => "Created"
  | .converged => "Converged"

namespace Handler
variable {Q : Type} {A : Q → Type}

/-- Remove an object that is not needed; otherwise look it up, and make it or mend it. -/
def apply (h : Handler Q A) : Attempt Q A Applied := do
  if h.required then
    match ← h.current.race ("get " ++ h.name) with
    | none =>
      h.create.race ("create " ++ h.name)
      return .created
    | some object =>
      (h.update object).race ("update " ++ h.name)
      return .converged
  else
    h.delete.race ("delete " ++ h.name)
    return .removed

def applyAll : List (Handler Q A) → Attempt Q A (List Applied)
  | [] => return []
  | h :: rest => do
    let applied ← h.apply
    let later ← applyAll rest
    return applied :: later

end Handler
end BuildOperator
