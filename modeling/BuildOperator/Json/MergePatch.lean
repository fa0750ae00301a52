import BuildOperator.Json.Basic
/-!
# Merge patches

What the cluster makes of a stored value and a merge patch: the members of a patch replace the
stored ones, null removes a member, objects are merged member by member, and every other patch
replaces the whole value.
-/
namespace BuildOperator.Json

/-- The members of an object, none for any other value. -/
def members : Json → List (String × Json)
  | .object members => members
  | _ => []

/-- Members without that name. -/
def removeMember (name : String) (ms : List (String × Json)) : List (String × Json) :=
  ms.filter fun m => m.1 ≠ name

/-- Give the member of that name a value, in its place if it is there and at the end if not. -/
def setMember (name : String) (value : Json) : List (String × Json) → List (String × Json)
  | [] => [(name, value)]
  | m :: ms => if m.1 = name then (name, value) :: ms else m :: setMember name value ms

mutual
/-- The stored value after the patch. -/
def mergePatch (stored : Json) : (patch : Json) → Json
  | .object changes => .object (mergeMembers stored.members changes)
  | .null => .null
  | .bool b => .bool b
  | .number n => .number n
  | .string s => .string s
  | .array items => .array items

def mergeMembers (stored : List (String × Json)) :
    (changes : List (String × Json)) → List (String × Json)
  | [] => stored
  | (name, patch) :: changes =>
    let next :=
      if patch = .null then removeMember name stored
      else setMember name (mergePatch ((stored.lookup name).getD .null) patch) stored
    mergeMembers next changes
end

@[simp] theorem lookup_setMember_self (name : String) (value : Json) (ms : List (String × Json)) :
    (setMember name value ms).lookup name = some value := by
  induction ms with
  | nil => simp [setMember]
  | cons m ms ih =>
    obtain ⟨k, x⟩ := m
    by_cases hk : k = name
    · simp [setMember, hk]
    · have hb : (name == k) = false := by simpa using Ne.symm hk
      simp only [setMember, if_neg hk, List.lookup_cons, hb, ih]

theorem lookup_setMember_of_ne {name other : String} (h : other ≠ name) (value : Json)
    (ms : List (String × Json)) : (setMember name value ms).lookup other = ms.lookup other := by
  have hb : (other == name) = false := by simpa using h
  induction ms with
  | nil => simp [setMember, List.lookup_cons, hb]
  | cons m ms ih =>
    obtain ⟨k, x⟩ := m
    by_cases hk : k = name
    · subst hk
      simp only [setMember, if_true, List.lookup_cons, hb]
    · simp only [setMember, if_neg hk, List.lookup_cons, ih]

theorem lookup_removeMember_self (name : String) (ms : List (String × Json)) :
    (removeMember name ms).lookup name = none := by
  rw [List.lookup_eq_none_iff]
  intro m hm
  have hne : m.1 ≠ name := by simpa [removeMember] using (List.mem_filter.mp hm).2
  simpa using hne.symm

end BuildOperator.Json
