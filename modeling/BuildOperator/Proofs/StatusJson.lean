import BuildOperator.Build.Json
import BuildOperator.Proofs.TimestampText
/-!
# Conditions read back from JSON

What is written of a condition is read back, its time included. Readers of values are inverse to
their writers one by one, and a reader of a member is settled by what the object has under its name.
-/
namespace BuildOperator

namespace Decode
variable {α : Type}

@[simp] theorem string_string (s : String) : string (.string s) = .ok s := rfl

@[simp] theorem time_toJson (t : Timestamp) : time t.toJson = .ok t := by
  simp only [time, Timestamp.toJson, Timestamp.ofText_text]
  rfl

@[simp] theorem int64_ofInt (n : Int64) : int64 (.ofInt n.toInt) = .ok n := by
  have hlow : (-9223372036854775808 : Int) ≤ n.toInt := n.le_toInt
  have hhigh : n.toInt ≤ 9223372036854775807 := Int.le_of_lt_add_one n.toInt_lt
  have hn : Int64.ofInt n.toInt = n := Int64.ofInt_toInt n
  simp only [int64, integer, Json.ofInt, if_pos (And.intro hlow hhigh)]
  exact congrArg Except.ok hn

theorem mapM_map {β : Type} {f : β → Except DecodeError α} {g : α → β} (h : ∀ a, f (g a) = .ok a)
    (l : List α) : (l.map g).mapM f = .ok l := by
  induction l with
  | nil => rfl
  | cons a l ih =>
    rw [List.map_cons, List.mapM_cons, h, ih]
    rfl

theorem list_map {f : Decoder α} {g : α → Json} (h : ∀ a, f (g a) = .ok a) (l : List α) :
    list f (.array (l.map g)) = .ok l := mapM_map h l

section
variable {ms : List (String × Json)} {name : String} {x : Json} {a : α} (f : Decoder α)

theorem present_of_lookup (hx : ms.lookup name = some x) :
    present ms name f = some <$> f x := by
  simp only [present, hx]

theorem present_of_absent (hx : ms.lookup name = none) : present ms name f = .ok none := by
  simp only [present, hx]

end

end Decode

@[simp] theorem ConditionStatus.ofJson_toJson (s : ConditionStatus) : ofJson s.toJson = .ok s := by
  cases s <;> rfl

theorem Condition.ofJson_toJson (c : Condition) : ofJson c.toJson = .ok c := by
  change ofMembers [
    ("lastTransitionTime", c.lastTransitionTime.toJson), ("message", .string c.message),
    ("observedGeneration", .ofInt c.observedGeneration.toInt), ("reason", .string c.reason),
    ("status", c.status.toJson), ("type", .string c.type)] = .ok c
  simp [ofMembers, Decode.present, Decode.required, List.lookup_cons, bind, Except.bind,
    Functor.map, Except.map]
  rfl

theorem Conditions.ofJson_toJson (cs : Conditions) : ofJson cs.toJson = .ok cs :=
  Decode.list_map Condition.ofJson_toJson cs

end BuildOperator
