/-!
# Comparisons

Orders of lists, of values that may be missing, and of the plain values that other orders are built
from. Orders are combined by `Ordering.then`: the first one that tells two values apart decides.
-/
namespace BuildOperator.Comparison

/-- Compare lists item by item; a list that ends first is less. -/
def items {α : Type} (compare : α → α → Ordering) : List α → List α → Ordering
  | [], [] => .eq
  | [], _ :: _ => .lt
  | _ :: _, [] => .gt
  | a :: as, b :: bs => (compare a b).then (items compare as bs)

/-- Compare values that may be missing; none is less than any. -/
def options {α : Type} (compare : α → α → Ordering) (a b : Option α) : Ordering :=
  items compare a.toList b.toList

def nats (a b : Nat) : Ordering := compareOfLessAndEq a b

def ints (a b : Int) : Ordering := compareOfLessAndEq a b

def texts (a b : String) : Ordering := compareOfLessAndEq a b

/-- False is less than true. -/
def bools (a b : Bool) : Ordering := nats a.toNat b.toNat

end BuildOperator.Comparison
