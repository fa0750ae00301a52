import BuildOperator.Cluster.Store
/-!
# Changes of a store

A store of which every key is a place of its own changes by objects that are put under their own
keys, and by keys that are erased. Neither touches another key, and neither ever files an object
under a key that is not its own.
-/
namespace BuildOperator

inductive Change where
  | put (object : ManagedObject)
  | erase (key : ObjectKey)
  deriving DecidableEq

/-- The key that is written or erased. -/
def Change.key : Change → ObjectKey
  | .put object => object.key
  | .erase key => key

namespace Store
variable {s : Store (id : ObjectKey → ObjectKey)} {key : ObjectKey}

def after (s : Store (id : ObjectKey → ObjectKey)) : Change → Store (id : ObjectKey → ObjectKey)
  | .put object => s.put object
  | .erase key => s.erase key

theorem get?_after_of_ne {c : Change} (h : key ≠ c.key) : (s.after c).get? key = s.get? key := by
  cases c with
  | put o => exact s.get?_put_of_ne h
  | erase k => exact s.get?_erase_of_ne h

/-- The store after a change, if there was one. -/
def afterAny (s : Store (id : ObjectKey → ObjectKey)) (c : Option Change) :
    Store (id : ObjectKey → ObjectKey) :=
  c.elim s s.after

/-- Every object sits under its own key. -/
def Filed (s : Store (id : ObjectKey → ObjectKey)) : Prop :=
  ∀ key o, s.get? key = some o → o.key = key

theorem filed_empty : ({} : Store (id : ObjectKey → ObjectKey)).Filed := by
  intro key o h
  cases h

/-- Every object sits under its own key, with a version that a write gave it. -/
def Versioned (s : Store (id : ObjectKey → ObjectKey)) : Prop :=
  ∀ key o, s.get? key = some o →
    o.key = key ∧ ∃ n, n ≤ s.writes ∧ o.resourceVersion = some (toString n)

theorem versioned_empty : ({} : Store (id : ObjectKey → ObjectKey)).Versioned := by
  intro key o h
  cases h

theorem Versioned.filed (h : s.Versioned) : s.Filed := fun key o hk => (h key o hk).1

theorem writes_le_after (s : Store (id : ObjectKey → ObjectKey)) (c : Change) :
    s.writes ≤ (s.after c).writes := by
  cases c with
  | put o => exact Nat.le_succ _
  | erase key => exact Nat.le_refl _

/-- What is stored at the key of a change comes from that change, and with the newest version. -/
theorem of_get?_after_key {c : Change} {o : ManagedObject}
    (h : (s.after c).get? c.key = some o) :
    o.key = c.key ∧ (s.after c).writes = s.writes + 1 ∧
      o.resourceVersion = some (toString (s.writes + 1)) := by
  cases c with
  | put object =>
    have hp : (s.put object).get? object.key = some o := h
    rw [get?_put_self] at hp
    obtain rfl := Option.some.inj hp
    exact ⟨ManagedObject.key_withVersion _ _, rfl, ManagedObject.resourceVersion_withVersion _ _⟩
  | erase key =>
    have he : (s.erase key).get? key = some o := h
    rw [get?_erase_self] at he
    cases he

theorem Filed.after (h : s.Filed) (c : Change) : (s.after c).Filed := by
  intro key o hk
  by_cases hne : key = c.key
  · subst hne
    exact (of_get?_after_key hk).1
  · rw [get?_after_of_ne hne] at hk
    exact h key o hk

theorem Versioned.after (h : s.Versioned) (c : Change) : (s.after c).Versioned := by
  intro key o hk
  by_cases hne : key = c.key
  · subst hne
    obtain ⟨ho, hw, hv⟩ := of_get?_after_key hk
    exact ⟨ho, s.writes + 1, Nat.le_of_eq hw.symm, hv⟩
  · rw [get?_after_of_ne hne] at hk
    obtain ⟨ho, n, hn, hv⟩ := h key o hk
    exact ⟨ho, n, Nat.le_trans hn (s.writes_le_after c), hv⟩

theorem Versioned.afterAny (h : s.Versioned) (c : Option Change) : (s.afterAny c).Versioned := by
  cases c with
  | none => exact h
  | some c => exact h.after c

theorem put_withVersion (v : Option String) (o : ManagedObject) :
    s.put (o.withVersion v) = s.put o := by
  have hv (v' : Option String) : (o.withVersion v).withVersion v' = o.withVersion v' := by
    cases o <;> rfl
  simp only [put, ManagedObject.key_withVersion, hv]

theorem erase_of_absent (h : s.get? key = none) : s.erase key = s := by
  have hw : without key s.objects = s.objects := by
    refine List.filter_eq_self.mpr fun e he => ?_
    have hne : (key == e.1) = false := by simpa using List.lookup_eq_none_iff.mp h e he
    refine decide_eq_true fun heq => ?_
    rw [heq, beq_self_eq_true] at hne
    cases hne
  unfold erase
  rw [id, hw]

end Store
end BuildOperator
