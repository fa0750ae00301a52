import BuildOperator.Json.MergePatch
/-!
# Laws of merge patches

A merge patch works member by member: what it makes of a member is decided by what the stored value
and the patch have under its name.
-/
namespace BuildOperator.Json

theorem member_eq (x : Json) (name : String) :
    x.member name = (x.members.lookup name).getD .null := by
  cases x <;> rfl

@[simp] theorem members_object (ms : List (String × Json)) : (object ms).members = ms := rfl

theorem mergePatch_object (x : Json) (changes : List (String × Json)) :
    mergePatch x (.object changes) = .object (mergeMembers x.members changes) := by
  simp only [mergePatch]

theorem lookup_removeMember_of_ne {name other : String} (h : other ≠ name)
    (ms : List (String × Json)) : (removeMember name ms).lookup other = ms.lookup other := by
  induction ms with
  | nil => rfl
  | cons m ms ih =>
    obtain ⟨k, x⟩ := m
    by_cases hk : k = name
    · have hb : (other == k) = false := by simpa [hk] using h
      have hr : removeMember name ((k, x) :: ms) = removeMember name ms := by
        simp [removeMember, hk]
      rw [hr, ih, List.lookup_cons, hb]
    · have hr : removeMember name ((k, x) :: ms) = (k, x) :: removeMember name ms := by
        simp [removeMember, hk]
      rw [hr, List.lookup_cons, List.lookup_cons, ih]

/-- What a patch makes of a member, by what the stored value and the patch have under its name. -/
def patchedMember (stored : Option Json) : (change : Option Json) → Option Json
  | none => stored
  | some patch => if patch = .null then none else some (mergePatch (stored.getD .null) patch)

/-- A patch works member by member. -/
theorem lookup_mergeMembers {changes : List (String × Json)} (h : (changes.map Prod.fst).Nodup)
    (ms : List (String × Json)) (name : String) : (mergeMembers ms changes).lookup name =
      patchedMember (ms.lookup name) (changes.lookup name) := by
  induction changes generalizing ms with
  | nil => rfl
  | cons change changes ih =>
    obtain ⟨k, patch⟩ := change
    obtain ⟨hk, hn⟩ := List.nodup_cons.mp h
    rw [mergeMembers, ih hn]
    by_cases he : name = k
    · subst he
      have hnone : changes.lookup name = none := by
        rw [List.lookup_eq_none_iff]
        intro c hc
        have hne : name ≠ c.1 := fun he => hk (List.mem_map.mpr ⟨c, hc, he.symm⟩)
        simpa using hne
      rw [hnone, List.lookup_cons, beq_self_eq_true]
      by_cases hp : patch = .null
      · simp [patchedMember, hp, lookup_removeMember_self]
      · simp [patchedMember, hp]
    · have hb : (name == k) = false := by simpa using he
      rw [List.lookup_cons, hb]
      by_cases hp : patch = .null
      · simp only [hp, if_true, lookup_removeMember_of_ne he]
      · simp only [hp, if_false, lookup_setMember_of_ne he]

end BuildOperator.Json
