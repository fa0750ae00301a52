import BuildOperator.Failure
import BuildOperator.Managed.Object
/-!
# Store

The objects of a cluster. A store keeps each object at the place of its key, and keys with one place
share one entry: with `id` every key is a place of its own, with `ObjectKey.text` keys of one text
are the same. Every write gives the stored object a version that no object had before, and an update
has to carry the version of the object it replaces.
-/
namespace BuildOperator

structure Store {Place : Type} (place : ObjectKey → Place) where
  objects : List (Place × ManagedObject) := []
  /-- How many writes there were. -/
  writes : Nat := 0

namespace Store

variable {Place : Type} {place : ObjectKey → Place}

instance : Inhabited (Store place) := ⟨{}⟩

/-- The version that the next write gives. -/
def nextVersion (s : Store place) : String := toString (s.writes + 1)

variable [DecidableEq Place]

def get? (s : Store place) (key : ObjectKey) : Option ManagedObject := s.objects.lookup (place key)

/-- Entries at other places. -/
def without (p : Place) (objects : List (Place × ManagedObject)) : List (Place × ManagedObject) :=
  objects.filter fun e => e.1 ≠ p

/-- Store an object under its own key with a new version, whatever was there. -/
def put (s : Store place) (object : ManagedObject) : Store place where
  objects :=
    (place object.key, object.withVersion (some s.nextVersion)) ::
      without (place object.key) s.objects
  writes := s.writes + 1

def erase (s : Store place) (key : ObjectKey) : Store place :=
  { s with objects := without (place key) s.objects }

/-- The version of the object with that key, none if there is no such object. -/
def versionOf? (s : Store place) (key : ObjectKey) : Option String :=
  (s.get? key).bind ManagedObject.resourceVersion

/-- Store a new object. -/
def create (s : Store place) (object : ManagedObject) : Except Failure (Store place) :=
  if (s.get? object.key).isSome then .error (.conflict object.key "already exists")
  else .ok (s.put object)

/-- Replace an object, if the new one carries the version of the stored one. -/
def update (s : Store place) (object : ManagedObject) : Except Failure (Store place) :=
  if s.versionOf? object.key = object.resourceVersion then .ok (s.put object)
  else .error (.conflict object.key "the object has been modified")

theorem lookup_without_self (p : Place) (l : List (Place × ManagedObject)) :
    (without p l).lookup p = none := by
  rw [List.lookup_eq_none_iff]
  intro e he
  have hne : e.1 ≠ p := by simpa [without] using (List.mem_filter.mp he).2
  simpa using hne.symm

theorem lookup_without_of_ne {p q : Place} (h : q ≠ p) (l : List (Place × ManagedObject)) :
    (without p l).lookup q = l.lookup q := by
  induction l with
  | nil => rfl
  | cons e rest ih =>
    obtain ⟨r, o⟩ := e
    by_cases hr : r = p
    · have hb : (q == r) = false := by simpa [hr] using h
      have hw : without p ((r, o) :: rest) = without p rest := by simp [without, hr]
      rw [hw, ih, List.lookup_cons, hb]
    · have hw : without p ((r, o) :: rest) = (r, o) :: without p rest := by simp [without, hr]
      rw [hw, List.lookup_cons, List.lookup_cons, ih]

@[simp] theorem get?_put_self (s : Store place) (o : ManagedObject) :
    (s.put o).get? o.key = some (o.withVersion (some s.nextVersion)) := by
  simp [put, get?]

theorem get?_put_of_ne (s : Store place) {o : ManagedObject} {key : ObjectKey}
    (h : place key ≠ place o.key) : (s.put o).get? key = s.get? key := by
  have hb : (place key == place o.key) = false := by simpa using h
  simp [put, get?, List.lookup_cons, hb, lookup_without_of_ne h]

@[simp] theorem get?_erase_self (s : Store place) (key : ObjectKey) :
    (s.erase key).get? key = none :=
  lookup_without_self (place key) s.objects

theorem get?_erase_of_ne (s : Store place) {key other : ObjectKey}
    (h : place other ≠ place key) : (s.erase key).get? other = s.get? other :=
  lookup_without_of_ne h s.objects

end Store
end BuildOperator
