import BuildOperator.Proofs.Condition
import Mathlib.Data.List.Perm.Subperm
/-!
# Lists of conditions under records

A record revises one entry of a list or adds one at its end, and leaves every other entry where and
as it was. The list need not be a tidy one: types may be repeated in it, and it may hold types from
outside the vocabulary. Where the types of the vocabulary are not repeated, they never come to be.
-/
namespace BuildOperator

/-- A finding as it is recorded, with what the clock reads. -/
structure Recording where
  finding : Finding
  now : Timestamp
  deriving DecidableEq

namespace Conditions
variable {cs : Conditions} {f : Finding} {c : Condition} {t : ConditionType} {i : Nat}

/-- The list after records, one after the other. -/
def recordAll (cs : Conditions) (rs : List Recording) : Conditions :=
  rs.foldl (fun cs r => (cs.record r.finding r.now).1) cs

/-- No type of the vocabulary is there twice. Others may be. -/
def Unrepeated (cs : Conditions) : Prop :=
  ∀ t : ConditionType, (cs.map Condition.type).count t.name ≤ 1

/-- The names of the vocabulary. -/
def vocabulary : List String := ConditionType.all.map ConditionType.name

/-- What a record makes of a list, and what it says of the status. -/
structure Upserted (cs : Conditions) (f : Finding) (out : Conditions × Bool) : Prop where
  types : cs.map Condition.type <+: out.1.map Condition.type
  length : out.1.length = if (cs.find? f.type).isSome then cs.length else cs.length + 1
  others : ∀ i c, cs[i]? = some c → i ≠ cs.findIdx (fun c => c.type = f.type.name) →
    out.1[i]? = some c
  shown : ∃ c, out.1.find? f.type = some c ∧ c.Shows f
  kept : ∀ t, t ≠ f.type → out.1.find? t = cs.find? t
  changed : out.2 = true ↔ cs.statusOf? f.type ≠ some f.status

theorem isSome_find?_iff : (cs.find? t).isSome ↔ t.name ∈ cs.map Condition.type := by
  simp [find?]

theorem types_prefix_record (cs : Conditions) (f : Finding) (now : Timestamp) :
    cs.map Condition.type <+: (record cs f now).1.map Condition.type := by
  rw [types_record]
  split
  · exact List.prefix_rfl
  · exact List.prefix_append _ _

theorem length_record (cs : Conditions) (f : Finding) (now : Timestamp) :
    (record cs f now).1.length = if (cs.find? f.type).isSome then cs.length else cs.length + 1 := by
  have hl := congrArg List.length (types_record cs f now)
  simp only [isSome_find?_iff]
  split at hl
  · next h => simpa [h] using hl
  · next h => simpa [h] using hl

/-- Every entry but the first of the recorded type stays where and as it is. -/
theorem getElem?_record_of_ne (now : Timestamp) (hc : cs[i]? = some c)
    (hi : i ≠ cs.findIdx fun c => c.type = f.type.name) : (record cs f now).1[i]? = some c := by
  induction cs generalizing i with
  | nil => simp at hc
  | cons d cs ih =>
    rw [record_cons]
    by_cases hd : d.type = f.type.name
    · rw [if_pos hd]
      cases i with
      | zero => simp [List.findIdx_cons, hd] at hi
      | succ i => simpa using hc
    · rw [if_neg hd]
      cases i with
      | zero => simpa using hc
      | succ i =>
        rw [List.getElem?_cons_succ]
        exact ih (by simpa using hc) (by simpa [List.findIdx_cons, hd] using hi)

theorem snd_record (cs : Conditions) (f : Finding) (now : Timestamp) :
    (record cs f now).2 = true ↔ cs.statusOf? f.type ≠ some f.status := by
  induction cs with
  | nil => simp [record, statusOf?]
  | cons c cs ih =>
    by_cases hc : c.type = f.type.name
    · simp [record, statusOf?, find?_cons, hc]
    · simpa [record, statusOf?, find?_cons, hc] using ih

theorem upserted_record (cs : Conditions) (f : Finding) (now : Timestamp) :
    cs.Upserted f (record cs f now) where
  types := types_prefix_record cs f now
  length := length_record cs f now
  others := fun _ _ hc hi => getElem?_record_of_ne now hc hi
  shown := exists_shows_record cs f now
  kept := fun _ ht => find?_record_of_ne cs now ht
  changed := snd_record cs f now

theorem Unrepeated.record (h : cs.Unrepeated) (f : Finding) (now : Timestamp) :
    (record cs f now).1.Unrepeated := by
  intro t
  rw [types_record]
  split
  · exact h t
  · next hn =>
    rw [List.count_append, List.count_singleton]
    by_cases ht : f.type.name = t.name
    · have h0 : (cs.map Condition.type).count t.name = 0 := List.count_eq_zero.mpr (ht ▸ hn)
      simp [h0, ht]
    · simpa [ht] using h t

theorem Unrepeated.recordAll (h : cs.Unrepeated) (rs : List Recording) :
    (cs.recordAll rs).Unrepeated := by
  induction rs generalizing cs with
  | nil => exact h
  | cons r rs ih => exact ih (h.record r.finding r.now)

theorem Unrepeated.countP_le (h : cs.Unrepeated) :
    cs.countP (fun c => c.type ∈ vocabulary) ≤ vocabulary.length := by
  have hcount : cs.countP (fun c => c.type ∈ vocabulary) =
      ((cs.map Condition.type).filter (· ∈ vocabulary)).length := by
    rw [← List.countP_eq_length_filter, List.countP_map]
    rfl
  -- The names of the vocabulary that are there, each once, are among all of them.
  have hnodup : ((cs.map Condition.type).filter (· ∈ vocabulary)).Nodup := by
    refine List.nodup_iff_count.mpr fun name => ?_
    by_cases hn : name ∈ vocabulary
    · obtain ⟨t, -, ht⟩ := List.mem_map.mp hn
      rw [List.count_filter (by simpa using hn), ← ht]
      exact h t
    · have h0 : name ∉ (cs.map Condition.type).filter (· ∈ vocabulary) := by simp [hn]
      rw [List.count_eq_zero.mpr h0]
      exact Nat.zero_le 1
  have hsub : (cs.map Condition.type).filter (· ∈ vocabulary) ⊆ vocabulary := by
    intro name hm
    simpa using (List.mem_filter.mp hm).2
  rw [hcount]
  exact (List.subperm_of_subset hnodup hsub).length_le

/-- Each of any number of records, on any list, adds one entry at its end or revises the first of
its type, says whether the status of the type is another one, and leaves all other entries and the
findings of all other types alone. If no type of the vocabulary was repeated, none ever is, so that
seven entries at most are of the vocabulary. -/
theorem upserted_of_recordAll (cs : Conditions) (rs : List Recording) :
    (∀ earlier r later, rs = earlier ++ r :: later →
      (cs.recordAll earlier).Upserted r.finding
        ((cs.recordAll earlier).record r.finding r.now)) ∧
    (cs.Unrepeated → (cs.recordAll rs).Unrepeated ∧
      (cs.recordAll rs).countP (fun c => c.type ∈ vocabulary) ≤ 7) := by
  refine ⟨fun earlier r _ _ => upserted_record _ _ _, fun h => ?_⟩
  have hall := h.recordAll rs
  exact ⟨hall, hall.countP_le⟩

/-- A failed completion between two entries of one type from outside the vocabulary. -/
def queued : Conditions :=
  [⟨"Queued", .holds, "Queued", "", 1, .epoch⟩,
    ⟨"Completed", .fails, "BuildFailed", "", 1, .epoch⟩,
    ⟨"Queued", .unknown, "Queued", "", 1, .epoch⟩]

def acceptance : Recording := ⟨⟨.initialized, .holds, .workflowCreated, "", 2⟩, .epoch⟩

def completion : Recording := ⟨⟨.completed, .holds, .workflowCompleted, "", 2⟩, .epoch⟩

theorem upserted_of_queued : queued.Unrepeated ∧
    queued[2]? = some ⟨"Queued", .unknown, "Queued", "", 1, .epoch⟩ ∧
    (queued.recordAll [acceptance, completion])[2]? =
      some ⟨"Queued", .unknown, "Queued", "", 1, .epoch⟩ ∧
    ((queued.recordAll [acceptance]).record completion.finding completion.now).2 = true ∧
    (queued.recordAll [acceptance, completion]).Unrepeated := by
  have hq : queued.Unrepeated := fun t => by cases t <;> decide
  obtain ⟨hstep, hvocabulary⟩ := upserted_of_recordAll queued [acceptance, completion]
  have hu := hstep [acceptance] completion [] rfl
  exact ⟨hq, rfl, hu.others 2 _ rfl (by decide), hu.changed.mpr (by decide), (hvocabulary hq).1⟩

end Conditions
end BuildOperator
